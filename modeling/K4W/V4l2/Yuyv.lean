import K4W.Library.CInt
import Mathlib.Logic.Function.Basic

/-!
# RGB24 to YUYV

`rgb_to_yuyv` of `v4l2.c` packs two pixels of three bytes into four bytes.  The
loop computes its indices and the colour values in `int`; memory is taken from
the pointed-to byte on, so that every offset is the one the code computes.
-/

namespace K4W.V4l2

open K4W.Library.CInt

/-! ## Colours -/

/-- The components of a pixel, promoted to `int`. -/
structure Pixel where
  r : Int32
  g : Int32
  b : Int32

/-- `rgb[p*3+0]`, `rgb[p*3+1]`, and `rgb[p*3+2]` -/
def pixelIndices (p : Int32) : List Int :=
  [(p * 3 + 0).toInt, (p * 3 + 1).toInt, (p * 3 + 2).toInt]

def readByte (rgb : Int → UInt8) (index : Int32) : Int32 :=
  Int32.ofNat (rgb index.toInt).toNat

def readPixel (rgb : Int → UInt8) (p : Int32) : Pixel where
  r := readByte rgb (p * 3 + 0)
  g := readByte rgb (p * 3 + 1)
  b := readByte rgb (p * 3 + 2)

/-- `y1` and `y2`, with the arithmetic right shift of `int` -/
def Pixel.y (pixel : Pixel) : Int32 :=
  ((66 * pixel.r + 129 * pixel.g + 25 * pixel.b + 128) >>> 8) + 16

/-- `u1` -/
def Pixel.u (pixel : Pixel) : Int32 :=
  ((-38 * pixel.r - 74 * pixel.g + 112 * pixel.b + 128) >>> 8) + 128

/-- `v1` -/
def Pixel.v (pixel : Pixel) : Int32 :=
  ((112 * pixel.r - 94 * pixel.g - 18 * pixel.b + 128) >>> 8) + 128

/-- The clamp of a colour value, and its cast to `uint8_t`. -/
def clampByte (value : Int32) : UInt8 :=
  UInt8.ofInt (if value < 0 then 0 else if value > 255 then 255 else value).toInt

/-! ## The loop -/

/-- The output memory, and the offsets read and written so far, in program order. -/
structure Conversion where
  yuyv : Int → UInt8
  reads : List Int
  writes : List Int

def Conversion.read (conversion : Conversion) (indices : List Int) : Conversion :=
  { conversion with reads := conversion.reads ++ indices }

def Conversion.write (conversion : Conversion) (index value : Int32) : Conversion :=
  { conversion with
    yuyv := Function.update conversion.yuyv index.toInt (clampByte value)
    writes := conversion.writes ++ [index.toInt] }

/-- The body of the loop. -/
def convertPair (rgb : Int → UInt8) (i : Int32) (conversion : Conversion) : Conversion :=
  let first := readPixel rgb i
  let second := readPixel rgb (i + 1)
  ((((conversion.read (pixelIndices i ++ pixelIndices (i + 1))).write
    (i * 2 + 0) first.y).write
    (i * 2 + 1) first.u).write
    (i * 2 + 2) second.y).write
    (i * 2 + 3) first.v

/-- `for (int i = 0; i < size; i += 2)`, from any `i` on. -/
def convertLoop (rgb : Int → UInt8) (size : Int32) :
    Nat → Int32 → Conversion → Option Conversion
  | 0, _, _ => none
  | fuel + 1, i, conversion =>
      if i < size then convertLoop rgb size fuel (i + 2) (convertPair rgb i conversion)
      else some conversion

def rgbToYuyv (fuel : Nat) (rgb yuyv : Int → UInt8) (width height : Int32) :
    Option Conversion :=
  convertLoop rgb (width * height) fuel 0 ⟨yuyv, [], []⟩

/-! ## Fixed-point formulas -/

/-- A byte of the frame as a number. -/
def component (rgb : Int → UInt8) (offset : Int) : Int :=
  (rgb offset).toNat

/-- `Y` of the pixel with the given number, with floor division. -/
def luma (rgb : Int → UInt8) (pixel : Int) : Int :=
  (66 * component rgb (3 * pixel) + 129 * component rgb (3 * pixel + 1) +
    25 * component rgb (3 * pixel + 2) + 128) / 256 + 16

/-- `U` of the pixel with the given number. -/
def chromaU (rgb : Int → UInt8) (pixel : Int) : Int :=
  (-38 * component rgb (3 * pixel) - 74 * component rgb (3 * pixel + 1) +
    112 * component rgb (3 * pixel + 2) + 128) / 256 + 128

/-- `V` of the pixel with the given number. -/
def chromaV (rgb : Int → UInt8) (pixel : Int) : Int :=
  (112 * component rgb (3 * pixel) - 94 * component rgb (3 * pixel + 1) -
    18 * component rgb (3 * pixel + 2) + 128) / 256 + 128

section Ranges

variable (rgb : Int → UInt8)

theorem component_range (offset : Int) :
    0 ≤ component rgb offset ∧ component rgb offset ≤ 255 := by
  have hlt := (rgb offset).toNat_lt
  rw [component]
  omega

/-- The bounds of the three components of a pixel. -/
theorem components_range (pixel : Int) :
    (0 ≤ component rgb (3 * pixel) ∧ component rgb (3 * pixel) ≤ 255) ∧
      (0 ≤ component rgb (3 * pixel + 1) ∧ component rgb (3 * pixel + 1) ≤ 255) ∧
        0 ≤ component rgb (3 * pixel + 2) ∧ component rgb (3 * pixel + 2) ≤ 255 :=
  ⟨component_range rgb _, component_range rgb _, component_range rgb _⟩

theorem luma_range (pixel : Int) : 16 ≤ luma rgb pixel ∧ luma rgb pixel ≤ 235 := by
  obtain ⟨hr, hg, hb⟩ := components_range rgb pixel
  rw [luma]
  omega

theorem chromaU_range (pixel : Int) : 16 ≤ chromaU rgb pixel ∧ chromaU rgb pixel ≤ 240 := by
  obtain ⟨hr, hg, hb⟩ := components_range rgb pixel
  rw [chromaU]
  omega

theorem chromaV_range (pixel : Int) : 16 ≤ chromaV rgb pixel ∧ chromaV rgb pixel ≤ 240 := by
  obtain ⟨hr, hg, hb⟩ := components_range rgb pixel
  rw [chromaV]
  omega

end Ranges

/-! ## Colour values in `int` -/

/-- The arithmetic right shift of an `int` by eight bits. -/
theorem toInt_shiftRight_eight (value : Int32) : (value >>> 8).toInt = value.toInt / 256 := by
  have hshift : (value >>> 8).toInt = (value.toBitVec.sshiftRight 8).toInt := rfl
  rw [hshift, BitVec.toInt_sshiftRight, Int.shiftRight_eq_div_pow]
  rfl

theorem toInt_readByte (rgb : Int → UInt8) (index : Int32) :
    (readByte rgb index).toInt = component rgb index.toInt := by
  have hlt := (rgb index.toInt).toNat_lt
  rw [readByte, toInt_ofNat_eq (by omega), component]

/-- An index of a component is computed without overflow. -/
theorem toInt_pixelIndex {p : Nat} {k : Int32} (hp : 3 * p + 3 ≤ 2 ^ 31)
    (hlow : 0 ≤ k.toInt) (hhigh : k.toInt < 3) :
    (Int32.ofNat p * 3 + k).toInt = 3 * p + k.toInt :=
  toInt_affine (by omega) (show (0 : Int) ≤ 3 by decide) hlow
    (show (3 : Int) * p + k.toInt < 2 ^ 31 by omega)

/-- The components of a pixel are those of the frame. -/
structure Pixel.Shows (pixel : Pixel) (rgb : Int → UInt8) (number : Int) : Prop where
  r : pixel.r.toInt = component rgb (3 * number)
  g : pixel.g.toInt = component rgb (3 * number + 1)
  b : pixel.b.toInt = component rgb (3 * number + 2)

theorem shows_readPixel (rgb : Int → UInt8) {p : Nat} (hp : 3 * p + 3 ≤ 2 ^ 31) :
    (readPixel rgb (Int32.ofNat p)).Shows rgb p := by
  constructor
  · rw [readPixel, toInt_readByte, toInt_pixelIndex hp (by decide) (by decide)]
    exact congrArg (component rgb) (Int.add_zero _)
  · rw [readPixel, toInt_readByte, toInt_pixelIndex hp (by decide) (by decide)]
    rfl
  · rw [readPixel, toInt_readByte, toInt_pixelIndex hp (by decide) (by decide)]
    rfl

section Values

variable {rgb : Int → UInt8} {pixel : Pixel} {number : Int}

/-- A fixed-point sum scaled back and offset. -/
theorem toInt_scaled {sum offset : Int32} {value : Int} (hsum : sum.toInt = value)
    (hlow : -2 ^ 16 ≤ value) (hhigh : value < 2 ^ 16)
    (hoffset : 0 ≤ offset.toInt ∧ offset.toInt < 2 ^ 16) :
    ((sum >>> 8) + offset).toInt = value / 256 + offset.toInt := by
  have hshift : (sum >>> 8).toInt = value / 256 := by rw [toInt_shiftRight_eight, hsum]
  rw [toInt_add_eq, hshift]
  all_goals rw [hshift]
  all_goals omega

/-- The value before the clamp is that of the formula. -/
theorem Pixel.Shows.y_eq (hshows : pixel.Shows rgb number) :
    pixel.y.toInt = luma rgb number := by
  obtain ⟨hr, hg, hb⟩ := components_range rgb number
  have hsum : (66 * pixel.r + 129 * pixel.g + 25 * pixel.b + 128).toInt =
      66 * component rgb (3 * number) + 129 * component rgb (3 * number + 1) +
        25 * component rgb (3 * number + 2) + 128 := by
    simp only [Int32.toInt_add, Int32.toInt_mul, hshows.r, hshows.g, hshows.b,
      Int.bmod_add_bmod, Int.add_bmod_bmod, Int32.reduceToInt]
    exact Int.bmod_eq_of_le (by omega) (by omega)
  exact toInt_scaled hsum (by omega) (by omega) (by decide)

theorem Pixel.Shows.u_eq (hshows : pixel.Shows rgb number) :
    pixel.u.toInt = chromaU rgb number := by
  obtain ⟨hr, hg, hb⟩ := components_range rgb number
  have hsum : (-38 * pixel.r - 74 * pixel.g + 112 * pixel.b + 128).toInt =
      -38 * component rgb (3 * number) - 74 * component rgb (3 * number + 1) +
        112 * component rgb (3 * number + 2) + 128 := by
    simp only [Int32.toInt_add, Int32.toInt_sub, Int32.toInt_mul, hshows.r, hshows.g, hshows.b,
      Int.bmod_add_bmod, Int.add_bmod_bmod, Int.bmod_sub_bmod, Int.sub_bmod_bmod,
      Int32.reduceToInt]
    exact Int.bmod_eq_of_le (by omega) (by omega)
  exact toInt_scaled hsum (by omega) (by omega) (by decide)

theorem Pixel.Shows.v_eq (hshows : pixel.Shows rgb number) :
    pixel.v.toInt = chromaV rgb number := by
  obtain ⟨hr, hg, hb⟩ := components_range rgb number
  have hsum : (112 * pixel.r - 94 * pixel.g - 18 * pixel.b + 128).toInt =
      112 * component rgb (3 * number) - 94 * component rgb (3 * number + 1) -
        18 * component rgb (3 * number + 2) + 128 := by
    simp only [Int32.toInt_add, Int32.toInt_sub, Int32.toInt_mul, hshows.r, hshows.g, hshows.b,
      Int.bmod_add_bmod, Int.bmod_sub_bmod, Int.sub_bmod_bmod, Int32.reduceToInt]
    exact Int.bmod_eq_of_le (by omega) (by omega)
  exact toInt_scaled hsum (by omega) (by omega) (by decide)

/-- Neither the clamp nor the cast changes a value that a byte can hold. -/
theorem toNat_clampByte {value : Int32} (hlow : 0 ≤ value.toInt) (hhigh : value.toInt ≤ 255) :
    ((clampByte value).toNat : Int) = value.toInt := by
  have hzero : (0 : Int32).toInt = 0 := rfl
  have hmax : (255 : Int32).toInt = 255 := rfl
  have hnotLow : ¬value < 0 := by
    rw [Int32.lt_iff_toInt_lt, hzero]
    omega
  have hnotHigh : ¬value > 255 := by
    rw [gt_iff_lt, Int32.lt_iff_toInt_lt, hmax]
    omega
  rw [clampByte, if_neg hnotLow, if_neg hnotHigh, UInt8.ofInt, UInt8.toNat_ofNat']
  omega

end Values

/-! ## One pair of pixels -/

/-- The four bytes of the pair of pixels that starts with the given one. -/
structure HasPair (yuyv rgb : Int → UInt8) (offset pixel : Int) : Prop where
  y1 : ((yuyv offset).toNat : Int) = luma rgb pixel
  u : ((yuyv (offset + 1)).toNat : Int) = chromaU rgb pixel
  y2 : ((yuyv (offset + 2)).toNat : Int) = luma rgb (pixel + 1)
  v : ((yuyv (offset + 3)).toNat : Int) = chromaV rgb pixel

/-- The first offsets of a memory, each one once. -/
def offsets (count : Nat) : List Int :=
  (List.range count).map Nat.cast

theorem mem_offsets {count : Nat} {offset : Int} :
    offset ∈ offsets count ↔ 0 ≤ offset ∧ offset < count := by
  simp only [offsets, List.mem_map, List.mem_range]
  constructor
  · rintro ⟨i, hi, rfl⟩
    omega
  · rintro ⟨hlow, hhigh⟩
    exact ⟨offset.toNat, by omega, by omega⟩

/-- The pairs of pixels before the given one have been converted, and nothing else. -/
structure Converted (rgb : Int → UInt8) (pairs : Nat) (conversion : Conversion) : Prop where
  reads : conversion.reads = offsets (6 * pairs)
  writes : conversion.writes = offsets (4 * pairs)
  stored : ∀ j < pairs, HasPair conversion.yuyv rgb (4 * j) (2 * j)

section Pair

variable (rgb : Int → UInt8) (conversion : Conversion)

theorem toInt_pairIndex {j : Nat} {k : Int32} (hj : 6 * j + 6 ≤ 2 ^ 31) (hlow : 0 ≤ k.toInt)
    (hhigh : k.toInt < 4) : (Int32.ofNat (2 * j) * 2 + k).toInt = 4 * j + k.toInt := by
  have hindex := toInt_affine (x := 2 * j) (m := 2) (k := k) (by omega)
    (show (0 : Int) ≤ 2 by decide) hlow
    (show (2 : Int) * (2 * j : Nat) + k.toInt < 2 ^ 31 by omega)
  rw [hindex]
  change 2 * ((2 * j : Nat) : Int) + k.toInt = _
  omega

theorem pixelIndices_eq {p : Nat} (hp : 3 * p + 3 ≤ 2 ^ 31) :
    pixelIndices (Int32.ofNat p) = [(3 * p : Int), 3 * p + 1, 3 * p + 2] := by
  rw [pixelIndices, toInt_pixelIndex hp (by decide) (by decide),
    toInt_pixelIndex hp (by decide) (by decide), toInt_pixelIndex hp (by decide) (by decide)]
  rfl

/-- The body of the loop, with its indices computed. -/
theorem convertPair_eq {j : Nat} (hj : 6 * j + 6 ≤ 2 ^ 31) :
    convertPair rgb (Int32.ofNat (2 * j)) conversion =
      { yuyv := Function.update (Function.update (Function.update (Function.update
            conversion.yuyv (4 * j) (clampByte (readPixel rgb (Int32.ofNat (2 * j))).y))
            (4 * j + 1) (clampByte (readPixel rgb (Int32.ofNat (2 * j))).u))
            (4 * j + 2) (clampByte (readPixel rgb (Int32.ofNat (2 * j + 1))).y))
            (4 * j + 3) (clampByte (readPixel rgb (Int32.ofNat (2 * j))).v)
        reads := conversion.reads ++
          [(6 * j : Int), 6 * j + 1, 6 * j + 2, 6 * j + 3, 6 * j + 4, 6 * j + 5]
        writes := conversion.writes ++ [(4 * j : Int), 4 * j + 1, 4 * j + 2, 4 * j + 3] } := by
  have hsecond : Int32.ofNat (2 * j) + 1 = Int32.ofNat (2 * j + 1) := by
    rw [Int32.ofNat_add]
    rfl
  have hzero : (Int32.ofNat (2 * j) * 2 + 0).toInt = 4 * j :=
    (toInt_pairIndex hj (by decide) (by decide)).trans (Int.add_zero _)
  have hone : (Int32.ofNat (2 * j) * 2 + 1).toInt = 4 * j + 1 :=
    toInt_pairIndex hj (by decide) (by decide)
  have htwo : (Int32.ofNat (2 * j) * 2 + 2).toInt = 4 * j + 2 :=
    toInt_pairIndex hj (by decide) (by decide)
  have hthree : (Int32.ofNat (2 * j) * 2 + 3).toInt = 4 * j + 3 :=
    toInt_pairIndex hj (by decide) (by decide)
  have hindices : pixelIndices (Int32.ofNat (2 * j)) ++ pixelIndices (Int32.ofNat (2 * j + 1)) =
      [(6 * j : Int), 6 * j + 1, 6 * j + 2, 6 * j + 3, 6 * j + 4, 6 * j + 5] := by
    rw [pixelIndices_eq (by omega), pixelIndices_eq (by omega)]
    simp only [List.cons_append, List.nil_append, List.cons.injEq, and_true]
    omega
  simp only [convertPair, Conversion.read, Conversion.write, hsecond, hzero, hone, htwo, hthree,
    hindices, List.append_assoc, List.cons_append, List.nil_append]

/-- The formulas give bytes, so that the stored byte is the value of the formula. -/
theorem toNat_stored {value : Int32} {formula : Int} (hvalue : value.toInt = formula)
    (hlow : 16 ≤ formula) (hhigh : formula ≤ 240) :
    ((clampByte value).toNat : Int) = formula := by
  rw [toNat_clampByte (by omega) (by omega), hvalue]

/-- The bytes that the body of the loop stores. -/
theorem hasPair_convertPair {j : Nat} (hj : 6 * j + 6 ≤ 2 ^ 31) :
    HasPair (convertPair rgb (Int32.ofNat (2 * j)) conversion).yuyv rgb (4 * j) (2 * j) := by
  have hfirst : (readPixel rgb (Int32.ofNat (2 * j))).Shows rgb (2 * j) := by
    simpa using shows_readPixel rgb (p := 2 * j) (by omega)
  have hsecond : (readPixel rgb (Int32.ofNat (2 * j + 1))).Shows rgb (2 * j + 1) := by
    simpa using shows_readPixel rgb (p := 2 * j + 1) (by omega)
  have hy1 := luma_range rgb (2 * j)
  have hu := chromaU_range rgb (2 * j)
  have hy2 := luma_range rgb (2 * j + 1)
  have hv := chromaV_range rgb (2 * j)
  rw [convertPair_eq rgb conversion hj]
  dsimp only
  constructor
  · rw [Function.update_of_ne (by omega), Function.update_of_ne (by omega),
      Function.update_of_ne (by omega), Function.update_self]
    exact toNat_stored hfirst.y_eq hy1.1 (by omega)
  · rw [Function.update_of_ne (by omega), Function.update_of_ne (by omega),
      Function.update_self]
    exact toNat_stored hfirst.u_eq hu.1 hu.2
  · rw [Function.update_of_ne (by omega), Function.update_self]
    exact toNat_stored hsecond.y_eq hy2.1 (by omega)
  · rw [Function.update_self]
    exact toNat_stored hfirst.v_eq hv.1 hv.2

/-- The body of the loop changes the four bytes of its pair only. -/
theorem convertPair_elsewhere {j : Nat} (hj : 6 * j + 6 ≤ 2 ^ 31) {offset : Int}
    (hoffset : offset < 4 * j ∨ 4 * j + 4 ≤ offset) :
    (convertPair rgb (Int32.ofNat (2 * j)) conversion).yuyv offset = conversion.yuyv offset := by
  rw [convertPair_eq rgb conversion hj]
  dsimp only
  rw [Function.update_of_ne (by omega), Function.update_of_ne (by omega),
    Function.update_of_ne (by omega), Function.update_of_ne (by omega)]

end Pair

/-! ## The whole loop -/

theorem offsets_add (count more : Nat) :
    offsets (count + more) =
      offsets count ++ (List.range more).map fun i => ((count + i : Nat) : Int) := by
  rw [offsets, List.range_add, List.map_append, List.map_map]
  rfl

section Run

variable (rgb : Int → UInt8)

theorem converted_zero (yuyv : Int → UInt8) : Converted rgb 0 ⟨yuyv, [], []⟩ :=
  ⟨rfl, rfl, fun _ hj => absurd hj (Nat.not_lt_zero _)⟩

variable {rgb}

theorem Converted.convertPair {pairs : Nat} {conversion : Conversion}
    (hconverted : Converted rgb pairs conversion) (hfits : 6 * pairs + 6 ≤ 2 ^ 31) :
    Converted rgb (pairs + 1) (convertPair rgb (Int32.ofNat (2 * pairs)) conversion) := by
  constructor
  · rw [convertPair_eq rgb conversion hfits, Nat.mul_add, offsets_add, ← hconverted.reads]
    simp [List.range_succ]
  · rw [convertPair_eq rgb conversion hfits, Nat.mul_add, offsets_add, ← hconverted.writes]
    simp [List.range_succ]
  · intro j hj
    rcases Nat.lt_succ_iff_lt_or_eq.mp hj with hbefore | rfl
    · have hpair := hconverted.stored j hbefore
      constructor
      · rw [convertPair_elsewhere rgb conversion hfits (by omega)]
        exact hpair.y1
      · rw [convertPair_elsewhere rgb conversion hfits (by omega)]
        exact hpair.u
      · rw [convertPair_elsewhere rgb conversion hfits (by omega)]
        exact hpair.y2
      · rw [convertPair_elsewhere rgb conversion hfits (by omega)]
        exact hpair.v
    · exact hasPair_convertPair rgb conversion hfits

/-- From any pair on, one step of fuel for each remaining pair and the last test is enough. -/
theorem converted_convertLoop {size : Int32} {total : Nat} (hsize : size.toInt = 2 * total)
    (hfits : 6 * total ≤ 2 ^ 31) {fuel pairs : Nat} {conversion : Conversion}
    (hconverted : Converted rgb pairs conversion) (hpairs : pairs ≤ total)
    (hfuel : total < pairs + fuel) :
    ∃ final, convertLoop rgb size fuel (Int32.ofNat (2 * pairs)) conversion = some final ∧
      Converted rgb total final := by
  induction fuel generalizing pairs conversion with
  | zero => omega
  | succ fuel ih =>
      have hindex : (Int32.ofNat (2 * pairs)).toInt = 2 * pairs :=
        toInt_ofNat_eq (n := 2 * pairs) (by omega)
      rw [convertLoop]
      rcases Nat.lt_or_eq_of_le hpairs with hlt | rfl
      · have hnext : Int32.ofNat (2 * pairs) + 2 = Int32.ofNat (2 * (pairs + 1)) := by
          rw [Nat.mul_add, Int32.ofNat_add]
          rfl
        rw [if_pos (by rw [Int32.lt_iff_toInt_lt, hindex, hsize]; omega), hnext]
        exact ih (hconverted.convertPair (by omega)) hlt (by omega)
      · rw [if_neg (by rw [Int32.lt_iff_toInt_lt, hindex, hsize]; omega)]
        exact ⟨conversion, rfl, hconverted⟩

end Run

/-! ## Frames -/

/-- The clamp and the cast leave the value as it is. -/
def Unclamped (value : Int32) : Prop :=
  ((clampByte value).toNat : Int) = value.toInt

/-- The values of a pixel before the clamp. -/
structure ValuesInRange (pixel : Pixel) : Prop where
  y : (16 ≤ pixel.y.toInt ∧ pixel.y.toInt ≤ 235) ∧ Unclamped pixel.y
  u : (16 ≤ pixel.u.toInt ∧ pixel.u.toInt ≤ 240) ∧ Unclamped pixel.u
  v : (16 ≤ pixel.v.toInt ∧ pixel.v.toInt ≤ 240) ∧ Unclamped pixel.v

/-- A frame of the given size has been converted. -/
structure FrameConverted (rgb : Int → UInt8) (width height : Int32)
    (conversion : Conversion) : Prop where
  reads : ∀ offset ∈ conversion.reads, 0 ≤ offset ∧ offset < 3 * width.toInt * height.toInt
  writes : conversion.writes = offsets (2 * width.toInt * height.toInt).toNat
  pairs : ∀ row x : Nat, row < height.toInt → x < width.toInt → x % 2 = 0 →
    HasPair conversion.yuyv rgb (2 * (row * width.toInt + x)) (row * width.toInt + x)
  values : ∀ number : Nat, number < width.toInt * height.toInt →
    ValuesInRange (readPixel rgb (Int32.ofNat number))

/-- An even width, and sizes whose frame can be indexed by an `int`. -/
structure FrameSize (width height : Int32) : Prop where
  width_pos : 0 < width.toInt
  width_even : width.toInt % 2 = 0
  height_pos : 0 < height.toInt
  fits : 3 * width.toInt * height.toInt < 2 ^ 31

theorem Pixel.Shows.valuesInRange {rgb : Int → UInt8} {pixel : Pixel} {number : Int}
    (hshows : pixel.Shows rgb number) : ValuesInRange pixel := by
  have hy := luma_range rgb number
  have hu := chromaU_range rgb number
  have hv := chromaV_range rgb number
  rw [← hshows.y_eq] at hy
  rw [← hshows.u_eq] at hu
  rw [← hshows.v_eq] at hv
  constructor
  · exact ⟨hy, toNat_clampByte (by omega) (by omega)⟩
  · exact ⟨hu, toNat_clampByte (by omega) (by omega)⟩
  · exact ⟨hv, toNat_clampByte (by omega) (by omega)⟩

/-- A white pixel and a black one. -/
def whiteBlack : Int → UInt8 := fun offset => if offset < 3 then 255 else 0

section Frame

variable {width height : Int32}

/-- The conversion returns, and it has converted every pair. -/
theorem rgbToYuyv_converted {pairs fuel : Nat}
    (hpixels : width.toInt * height.toInt = 2 * pairs) (hfits : 6 * pairs < 2 ^ 31)
    (hfuel : width.toInt * height.toInt < 2 * fuel) (rgb yuyv : Int → UInt8) :
    ∃ conversion, rgbToYuyv fuel rgb yuyv width height = some conversion ∧
      Converted rgb pairs conversion := by
  have hproduct : (width * height).toInt = 2 * pairs := by
    rw [toInt_mul_eq (by omega) (by omega), hpixels]
  exact converted_convertLoop hproduct (Nat.le_of_lt hfits) (converted_zero rgb yuyv)
    (Nat.zero_le pairs) (show pairs < 0 + fuel by omega)

/-- The number of bytes written to the device is computed without overflow. -/
theorem writeCount_eq {pairs : Nat} (hpixels : width.toInt * height.toInt = 2 * pairs)
    (hfits : 6 * pairs < 2 ^ 31) : toSizeT (width * height * 2) = 4 * pairs := by
  have htwo : (2 : Int32).toInt = 2 := rfl
  have hproduct : (width * height).toInt * (2 : Int32).toInt = 4 * pairs := by
    rw [toInt_mul_eq (by omega) (by omega), hpixels, htwo]
    omega
  have hbytes : (width * height * 2).toInt = 4 * pairs := by
    rw [toInt_mul_eq (by omega) (by omega), hproduct]
  have hcount := toSizeT_eq (n := width * height * 2) (by omega)
  omega

variable (hsize : FrameSize width height)

include hsize

/-- The loop runs over all pixels, in pairs. -/
theorem FrameSize.pixels_eq :
    ∃ pairs : Nat, width.toInt * height.toInt = 2 * pairs ∧ 6 * pairs < 2 ^ 31 := by
  have hpos := Int.mul_pos hsize.width_pos hsize.height_pos
  have hfits := hsize.fits
  rw [Int.mul_assoc] at hfits
  obtain ⟨half, hhalf⟩ := Int.dvd_of_emod_eq_zero hsize.width_even
  have hpixels : width.toInt * height.toInt = 2 * (half * height.toInt) := by
    rw [hhalf, Int.mul_assoc]
  exact ⟨(half * height.toInt).toNat, by omega, by omega⟩

/-- Every even column of every row is the first pixel of a pair. -/
theorem FrameSize.pair_of_column {row x pairs : Nat}
    (hpixels : width.toInt * height.toInt = 2 * pairs) (hrow : row < height.toInt)
    (hx : x < width.toInt) (heven : x % 2 = 0) :
    ∃ j < pairs, row * width.toInt + x = 2 * (j : Int) := by
  obtain ⟨half, hhalf⟩ := Int.dvd_of_emod_eq_zero hsize.width_even
  have hwidth := hsize.width_pos
  have hnumber : row * width.toInt + x = 2 * (row * half + (x / 2 : Nat)) := by
    rw [hhalf, Int.mul_add, ← Int.mul_assoc 2, Int.mul_comm 2 (row : Int), Int.mul_assoc]
    omega
  have hlow : 0 ≤ row * width.toInt := Int.mul_nonneg (by omega) (by omega)
  have hhigh : (row + 1) * width.toInt ≤ height.toInt * width.toInt :=
    Int.mul_le_mul_of_nonneg_right (by omega) (by omega)
  rw [Int.add_mul, Int.one_mul, Int.mul_comm height.toInt] at hhigh
  exact ⟨(row * half + (x / 2 : Nat)).toNat, by omega, by omega⟩

theorem FrameSize.frameConverted {rgb : Int → UInt8} {conversion : Conversion} {pairs : Nat}
    (hpixels : width.toInt * height.toInt = 2 * pairs) (hfits : 6 * pairs < 2 ^ 31)
    (hconverted : Converted rgb pairs conversion) :
    FrameConverted rgb width height conversion := by
  constructor
  · intro offset hoffset
    rw [hconverted.reads, mem_offsets] at hoffset
    rw [Int.mul_assoc, hpixels]
    omega
  · rw [hconverted.writes, Int.mul_assoc, hpixels]
    congr 1
    omega
  · intro row x hrow hx heven
    obtain ⟨j, hj, hnumber⟩ := hsize.pair_of_column hpixels hrow hx heven
    rw [hnumber, ← Int.mul_assoc]
    exact hconverted.stored j hj
  · intro number hnumber
    exact (shows_readPixel rgb (by omega)).valuesInRange

/--
With a step of fuel for each pair of pixels and one for the last test, the
conversion of a frame returns, and it has converted the frame.
-/
theorem rgbToYuyv_frameConverted (rgb yuyv : Int → UInt8) {fuel : Nat}
    (hfuel : width.toInt * height.toInt < 2 * fuel) :
    ∃ conversion, rgbToYuyv fuel rgb yuyv width height = some conversion ∧
      FrameConverted rgb width height conversion := by
  obtain ⟨pairs, hpixels, hfits⟩ := hsize.pixels_eq
  obtain ⟨conversion, hloop, hconverted⟩ :=
    rgbToYuyv_converted hpixels hfits hfuel rgb yuyv
  exact ⟨conversion, hloop, hsize.frameConverted hpixels hfits hconverted⟩

end Frame

theorem rgbToYuyv_whiteBlack : ∃ conversion,
    rgbToYuyv 2 whiteBlack (fun _ => 0) 2 1 = some conversion ∧
      FrameConverted whiteBlack 2 1 conversion :=
  rgbToYuyv_frameConverted ⟨by decide, by decide, by decide, by decide⟩ _ _ (by decide)

/-! ## Writing a frame to the loopback device -/

/-- The pixel format that `VIDIOC_G_FMT` reports. -/
inductive PixelFormat where
  | mjpeg
  | yuyv
  | other

/-- A call of `write`: the buffer and the number of bytes. -/
structure WriteCall where
  bytes : Int → UInt8
  count : Nat

/--
The `write` that `k4w_v4l2_write_frame` returns the result of, or `none` where
it returns -1 without one.  `jpeg` stands for the buffer and the size that
`rgb_to_jpeg` leaves; `stack` is the array `yuyv` before it is filled.
-/
def k4wV4l2WriteFrame (fuel : Nat) (jpeg : (Int → UInt8) × Int32) (stack : Int → UInt8)
    (fd : Int32) (format : Option PixelFormat) (rgb : Int → UInt8) (width height : Int32) :
    Option (Option WriteCall) :=
  if fd < 0 then some none
  else
    match format with
    | none => some none
    | some .mjpeg =>
        if jpeg.2 > 0 then some (some ⟨jpeg.1, toSizeT jpeg.2⟩) else some none
    | some .yuyv =>
        (rgbToYuyv fuel rgb stack width height).map fun conversion =>
          some ⟨conversion.yuyv, toSizeT (width * height * 2)⟩
    | some .other => some (some ⟨rgb, toSizeT (width * height * 3)⟩)

/-- The frame determines the bytes of a pair. -/
theorem HasPair.byte_eq {yuyv other rgb : Int → UInt8} {offset pixel k : Int}
    (hpair : HasPair yuyv rgb offset pixel) (hother : HasPair other rgb offset pixel)
    (hk : 0 ≤ k ∧ k < 4) : yuyv (offset + k) = other (offset + k) := by
  apply UInt8.toNat.inj
  rcases show k = 0 ∨ k = 1 ∨ k = 2 ∨ k = 3 by omega with rfl | rfl | rfl | rfl
  · rw [Int.add_zero]
    exact Int.ofNat.inj (hpair.y1.trans hother.y1.symm)
  · exact Int.ofNat.inj (hpair.u.trans hother.u.symm)
  · exact Int.ofNat.inj (hpair.y2.trans hother.y2.symm)
  · exact Int.ofNat.inj (hpair.v.trans hother.v.symm)

/-- What the array held before it was filled does not reach the device. -/
theorem k4wV4l2WriteFrame_yuyv {width height fd : Int32} (hsize : FrameSize width height)
    (hfd : ¬fd < 0) {fuel : Nat} (hfuel : width.toInt * height.toInt < 2 * fuel)
    (jpeg : (Int → UInt8) × Int32) (rgb stack other : Int → UInt8) :
    ∃ call call' : WriteCall,
      k4wV4l2WriteFrame fuel jpeg stack fd (some .yuyv) rgb width height = some (some call) ∧
      k4wV4l2WriteFrame fuel jpeg other fd (some .yuyv) rgb width height = some (some call') ∧
      call.count = 2 * width.toInt * height.toInt ∧ call'.count = call.count ∧
      ∀ i < call.count, call.bytes i = call'.bytes i := by
  obtain ⟨pairs, hpixels, hfits⟩ := hsize.pixels_eq
  obtain ⟨conversion, hconversion, hconverted⟩ :=
    rgbToYuyv_converted hpixels hfits hfuel rgb stack
  obtain ⟨conversion', hconversion', hconverted'⟩ :=
    rgbToYuyv_converted hpixels hfits hfuel rgb other
  have hcount := writeCount_eq hpixels hfits
  refine ⟨⟨conversion.yuyv, toSizeT (width * height * 2)⟩,
    ⟨conversion'.yuyv, toSizeT (width * height * 2)⟩, ?_, ?_, ?_, rfl, ?_⟩
  · rw [k4wV4l2WriteFrame, if_neg hfd, hconversion]
    rfl
  · rw [k4wV4l2WriteFrame, if_neg hfd, hconversion']
    rfl
  · dsimp only
    rw [hcount, Int.mul_assoc, hpixels]
    omega
  · intro i hi
    have hpair : i / 4 < pairs := by
      dsimp only at hi
      omega
    have hbyte := (hconverted.stored (i / 4) hpair).byte_eq (hconverted'.stored (i / 4) hpair)
      (k := (i % 4 : Nat)) (by omega)
    rwa [show (4 * (i / 4 : Nat) + (i % 4 : Nat) : Int) = i by omega] at hbyte

end K4W.V4l2
