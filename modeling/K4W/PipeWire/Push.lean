import K4W.PipeWire.Rows

/-!
# Pushing a frame

The loops of `k4w_pw_source_push_frame` compute the row offsets `y * src_stride`
and `y * s_stride` in `int`.  Every pixel arrives where it belongs exactly when
these products do not overflow for a pushed row; the two strides may differ in
either direction.
-/

namespace K4W.PipeWire

open K4W.Library
open K4W.Library.CInt

/-! ## Row offsets -/

/-- `y * s_stride` -/
def dstOffset (source : Source) (y : Nat) : Int :=
  (Int32.ofNat y * source.stride).toInt

/-- `y * src_stride` -/
def srcOffset (width : Int32) (y : Nat) : Int :=
  (Int32.ofNat y * (width * 3)).toInt

theorem dstOffset_eq_bmod (source : Source) {y : Nat} (hy : y < 2 ^ 31) :
    dstOffset source y = (y * source.stride.toInt).bmod (2 ^ 32) := by
  rw [dstOffset, Int32.toInt_mul, toInt_ofNat_eq hy]

theorem srcOffset_eq_bmod (width : Int32) {y : Nat} (hy : y < 2 ^ 31) :
    srcOffset width y = (y * (3 * width.toInt)).bmod (2 ^ 32) := by
  have hthree : (3 : Int32).toInt = 3 := rfl
  rw [srcOffset, Int32.toInt_mul, Int32.toInt_mul, toInt_ofNat_eq hy, hthree,
    Int.mul_bmod_bmod, Int.mul_comm width.toInt 3]

/-- A row offset that fits an `int` is computed exactly. -/
theorem bmod_of_fits {n : Int} (hlow : 0 ≤ n) (hfits : n < 2 ^ 31) : n.bmod (2 ^ 32) = n :=
  Int.bmod_eq_of_le (by omega) (by omega)

/-- A row offset that overflows lands at least `2 ^ 32` bytes too low. -/
theorem bmod_of_overflow {n : Int} (hover : 2 ^ 31 ≤ n) : n.bmod (2 ^ 32) ≤ n - 2 ^ 32 := by
  rw [Int.bmod_def]
  split <;> omega

/-! ## The loop over the rows -/

section Rows

variable (source : Source) (rgb bytes : Int → UInt8) (width : Int32)

/-- The frame buffer after the first rows have been stored. -/
def rowsStored (rows : Nat) : Int → UInt8 :=
  ((List.range rows).flatMap (rowStores source width)).foldl (applyStore rgb) bytes

/-- The offset belongs to the pushed part of row `y`. -/
def InRow (y : Nat) (offset : Int) : Prop :=
  dstOffset source y ≤ offset ∧
    offset < dstOffset source y + 4 * pushedColumns source width

instance (y : Nat) (offset : Int) : Decidable (InRow source width y offset) :=
  inferInstanceAs (Decidable (_ ∧ _))

variable {source width}
variable (hcolumns : 4 * pushedColumns source width ≤ 2 ^ 31)

include hcolumns

theorem rowsStored_succ (rows : Nat) (offset : Int) :
    rowsStored source rgb bytes width (rows + 1) offset =
      if InRow source width rows offset then
        rowByte rgb (srcOffset width rows) (offset - dstOffset source rows).toNat
      else rowsStored source rgb bytes width rows offset := by
  rw [rowsStored, List.range_succ, List.flatMap_append, List.foldl_append,
    List.flatMap_singleton]
  exact foldl_rowStores source rgb _ width rows hcolumns offset

/-- An offset outside all stored rows keeps its byte. -/
theorem rowsStored_outside {rows : Nat} {offset : Int}
    (houtside : ∀ y < rows, ¬InRow source width y offset) :
    rowsStored source rgb bytes width rows offset = bytes offset := by
  induction rows with
  | zero => rfl
  | succ rows ih =>
      rw [rowsStored_succ rgb bytes hcolumns, if_neg (houtside rows (Nat.lt_succ_self rows))]
      exact ih fun y hy => houtside y (Nat.lt_succ_of_lt hy)

/-- A stored row keeps its bytes when no later row contains them. -/
theorem rowsStored_row {rows y : Nat} {offset : Int} (hy : y < rows)
    (hin : InRow source width y offset)
    (hlater : ∀ later, y < later → later < rows → ¬InRow source width later offset) :
    rowsStored source rgb bytes width rows offset =
      rowByte rgb (srcOffset width y) (offset - dstOffset source y).toNat := by
  induction rows with
  | zero => exact absurd hy (Nat.not_lt_zero y)
  | succ rows ih =>
      rw [rowsStored_succ rgb bytes hcolumns]
      rcases Nat.lt_succ_iff_lt_or_eq.mp hy with hbefore | rfl
      · rw [if_neg (hlater rows hbefore (Nat.lt_succ_self rows))]
        exact ih hbefore fun later hlow hhigh =>
          hlater later hlow (Nat.lt_succ_of_lt hhigh)
      · rw [if_pos hin]

end Rows

/-! ## What a push has to do -/

/-- Statics with a frame buffer of the given size and contents. -/
def Source.withBytes (source : Source) (size : Nat) (bytes : Int → UInt8) : Source :=
  { source with frameBuf := some ⟨size, bytes⟩ }

/-- The offset of the pixel in column `x` and row `y` of the frame buffer. -/
def pixelOffset (source : Source) (x y : Nat) : Int :=
  y * source.stride.toInt + 4 * x

/-- The offset of the pixel in column `x` and row `y` of a pushed frame. -/
def framePixel (width : Int32) (x y : Nat) : Int :=
  3 * (y * width.toInt + x)

/-- The column and the row are below both sizes. -/
def Pushed (source : Source) (width height : Int32) (x y : Nat) : Prop :=
  x < pushedColumns source width ∧ y < pushedRows source height

/-- The bytes at the offset are those of an RGB pixel in BGRx. -/
structure HasPixel (bytes rgb : Int → UInt8) (offset pixel : Int) : Prop where
  blue : bytes offset = rgb (pixel + 2)
  green : bytes (offset + 1) = rgb (pixel + 1)
  red : bytes (offset + 2) = rgb pixel
  unused : bytes (offset + 3) = 0

/-- The store and what it reads are inside the two buffers. -/
def Store.Inside (size : Nat) (width height : Int32) (store : Store) : Prop :=
  (0 ≤ store.dst ∧ store.dst < size) ∧
    ∀ src, store.src = some src → 0 ≤ src ∧ src < 3 * width.toInt * height.toInt

/--
A push of a frame of this size succeeds and stores the common pixels and nothing
else, whatever the frame and the frame buffer contain.
-/
def PushesFrame (source : Source) (size : Nat) (width height : Int32) : Prop :=
  ∀ rgb bytes : Int → UInt8, ∃ stored : Int → UInt8,
    k4wPwSourcePushFrame (source.withBytes size bytes) rgb width height =
      (0, source.withBytes size stored) ∧
    (∀ x y, Pushed source width height x y →
      HasPixel stored rgb (pixelOffset source x y) (framePixel width x y)) ∧
    (∀ offset, 0 ≤ offset → offset < size →
      (∀ x y, Pushed source width height x y →
        ¬(pixelOffset source x y ≤ offset ∧ offset < pixelOffset source x y + 4)) →
      stored offset = bytes offset) ∧
    ∀ store ∈ pushStores source width height, store.Inside size width height

/-- The sizes are not negative, and the frame buffer holds the rows of its stride. -/
structure PushInput (source : Source) (size : Nat) (width height : Int32) : Prop where
  stream : source.stream = true
  width_nonneg : 0 ≤ width.toInt
  height_nonneg : 0 ≤ height.toInt
  sWidth_nonneg : 0 ≤ source.width.toInt
  sHeight_nonneg : 0 ≤ source.height.toInt
  stride : source.stride.toInt = 4 * source.width.toInt
  holds : source.stride.toInt * source.height.toInt ≤ size

/-- The offsets of the pushed rows fit an `int`, unless no column is pushed. -/
def OffsetsFit (source : Source) (width height : Int32) : Prop :=
  0 < pushedColumns source width → ∀ y < pushedRows source height,
    y * (3 * width.toInt) < 2 ^ 31 ∧ y * source.stride.toInt < 2 ^ 31

/-! ## Offsets that fit -/

/-- Every store of a pixel that reads the frame reads one of the three bytes of its column. -/
theorem pixelStores_src {dstRow srcRow src : Int} {x : Nat} (hx : 4 * x + 4 ≤ 2 ^ 31)
    {store : Store} (hstore : store ∈ pixelStores dstRow srcRow (Int32.ofNat x))
    (hsrc : store.src = some src) : ∃ k : Int, 0 ≤ k ∧ k < 3 ∧ src = srcRow + (3 * x + k) := by
  rw [pixelStores_eq _ _ hx] at hstore
  simp only [List.mem_cons, List.not_mem_nil, or_false] at hstore
  rcases hstore with rfl | rfl | rfl | rfl
  · exact ⟨2, by decide, by decide, (Option.some.inj hsrc).symm⟩
  · exact ⟨1, by decide, by decide, (Option.some.inj hsrc).symm⟩
  · exact ⟨0, by decide, by decide, (Option.some.inj hsrc).symm⟩
  · cases hsrc

theorem clipInt_le_pushed (pushed negotiated : Int32) :
    (clipInt pushed negotiated).toInt ≤ pushed.toInt := by
  unfold clipInt
  split
  case isTrue => exact Int.le_refl _
  case isFalse hle => exact Int.not_lt.mp fun hlt => hle (Int32.lt_iff_toInt_lt.mpr hlt)

/-- A row ends before the next one starts. -/
theorem row_end_le {y later : Nat} {stride : Int} (hstride : 0 ≤ stride) (hlt : y < later) :
    y * stride + stride ≤ later * stride := by
  have hsucc : ((y + 1 : Nat) : Int) * stride ≤ later * stride :=
    Int.mul_le_mul_of_nonneg_right (Int.ofNat_le.mpr hlt) hstride
  rw [Int.natCast_add, Int.add_mul, Int.natCast_one, Int.one_mul] at hsucc
  exact hsucc

/-- Row and column offsets stay below the product of the sizes. -/
theorem row_offset_lt {stride rows y offset : Int} (hstride : 0 ≤ stride) (hy : y + 1 ≤ rows)
    (hoffset : offset < y * stride + stride) : offset < stride * rows := by
  have hrows : (y + 1) * stride ≤ rows * stride := Int.mul_le_mul_of_nonneg_right hy hstride
  rw [Int.add_mul, Int.one_mul] at hrows
  rw [Int.mul_comm stride rows]
  omega

section Input

variable {source : Source} {size : Nat} {width height : Int32}
variable (hinput : PushInput source size width height)

include hinput

theorem PushInput.stride_nonneg : 0 ≤ source.stride.toInt := by
  have hwidth := hinput.sWidth_nonneg
  rw [hinput.stride]
  omega

theorem PushInput.columns_le : (4 * pushedColumns source width : Int) ≤ source.stride.toInt := by
  have hclip := clipInt_le width source.width
  have hwidth := hinput.sWidth_nonneg
  rw [hinput.stride, pushedColumns]
  omega

theorem PushInput.columns_le_width : (pushedColumns source width : Int) ≤ width.toInt := by
  have hclip := clipInt_le_pushed width source.width
  have hwidth := hinput.width_nonneg
  rw [pushedColumns]
  omega

theorem PushInput.rows_le : (pushedRows source height : Int) ≤ source.height.toInt := by
  have hclip := clipInt_le height source.height
  have hheight := hinput.sHeight_nonneg
  rw [pushedRows]
  omega

theorem PushInput.rows_le_height : (pushedRows source height : Int) ≤ height.toInt := by
  have hclip := clipInt_le_pushed height source.height
  have hheight := hinput.height_nonneg
  rw [pushedRows]
  omega

theorem PushInput.columns_fit : 4 * pushedColumns source width ≤ 2 ^ 31 := by
  have hle := hinput.columns_le
  have hlt := source.stride.toInt_lt
  omega

theorem PushInput.row_lt {y : Nat} (hy : y < pushedRows source height) : y < 2 ^ 31 := by
  have hle := hinput.rows_le
  have hlt := source.height.toInt_lt
  omega

theorem PushInput.dstOffset_eq {y : Nat} (hy : y < pushedRows source height)
    (hfits : y * source.stride.toInt < 2 ^ 31) :
    dstOffset source y = y * source.stride.toInt := by
  rw [dstOffset_eq_bmod source (hinput.row_lt hy)]
  exact bmod_of_fits (Int.mul_nonneg (by omega) hinput.stride_nonneg) hfits

theorem PushInput.srcOffset_eq {y : Nat} (hy : y < pushedRows source height)
    (hfits : y * (3 * width.toInt) < 2 ^ 31) :
    srcOffset width y = y * (3 * width.toInt) := by
  have hwidth := hinput.width_nonneg
  rw [srcOffset_eq_bmod width (hinput.row_lt hy)]
  exact bmod_of_fits (Int.mul_nonneg (by omega) (by omega)) hfits

/-- The pushed part of a row whose offset was computed exactly. -/
theorem PushInput.inRow_iff {y : Nat} {offset : Int} (hy : y < pushedRows source height)
    (hfits : y * source.stride.toInt < 2 ^ 31) :
    InRow source width y offset ↔
      y * source.stride.toInt ≤ offset ∧
        offset < y * source.stride.toInt + 4 * pushedColumns source width := by
  rw [InRow, hinput.dstOffset_eq hy hfits]

/-- Rows whose offsets were computed exactly do not overlap. -/
theorem PushInput.not_inRow_later {y later : Nat} {offset : Int}
    (hlater : later < pushedRows source height) (hlt : y < later)
    (hfits : later * source.stride.toInt < 2 ^ 31)
    (hin : offset < y * source.stride.toInt + 4 * pushedColumns source width) :
    ¬InRow source width later offset := by
  have hcolumns := hinput.columns_le
  have hend := row_end_le hinput.stride_nonneg hlt
  rw [hinput.inRow_iff hlater hfits]
  omega

/-- The bytes of a pixel after the push, when the destination rows were computed exactly. -/
theorem PushInput.rowsStored_pixel (rgb bytes : Int → UInt8)
    (hfits : ∀ y < pushedRows source height, y * source.stride.toInt < 2 ^ 31) {x y k : Nat}
    (hpushed : Pushed source width height x y) (hk : k < 4) :
    rowsStored source rgb bytes width (pushedRows source height) (pixelOffset source x y + k) =
      if k = 3 then 0 else rgb (srcOffset width y + (3 * x + (2 - k) : Nat)) := by
  obtain ⟨hx, hy⟩ := hpushed
  have hoffset : pixelOffset source x y + k = y * source.stride.toInt + (4 * x + k : Nat) := by
    rw [pixelOffset]
    omega
  have hin : InRow source width y (pixelOffset source x y + k) := by
    rw [hinput.inRow_iff hy (hfits y hy)]
    omega
  rw [rowsStored_row rgb bytes hinput.columns_fit hy hin, hinput.dstOffset_eq hy (hfits y hy),
    hoffset, add_sub_cancel_left, Int.toNat_natCast, rowByte_column rgb _ x hk]
  intro later hlt hlater
  apply hinput.not_inRow_later hlater hlt (hfits later hlater)
  omega

/-- The pixel that the loops store, read from where `src_row` points. -/
theorem PushInput.hasPixel (rgb bytes : Int → UInt8)
    (hfits : ∀ y < pushedRows source height, y * source.stride.toInt < 2 ^ 31) {x y : Nat}
    (hpushed : Pushed source width height x y) :
    HasPixel (rowsStored source rgb bytes width (pushedRows source height)) rgb
      (pixelOffset source x y) (srcOffset width y + 3 * x) := by
  have hbyte : ∀ k < 4, _ := fun k => hinput.rowsStored_pixel rgb bytes hfits (k := k) hpushed
  constructor
  · simpa [Int.add_assoc] using hbyte 0 (by decide)
  · simpa [Int.add_assoc] using hbyte 1 (by decide)
  · simpa using hbyte 2 (by decide)
  · simpa using hbyte 3 (by decide)

/-- An offset outside all pushed pixels is outside all pushed rows. -/
theorem PushInput.not_inRow_of_outside {y : Nat} {offset : Int}
    (hfits : 0 < pushedColumns source width → y * source.stride.toInt < 2 ^ 31)
    (hy : y < pushedRows source height)
    (houtside : ∀ x y, Pushed source width height x y →
      ¬(pixelOffset source x y ≤ offset ∧ offset < pixelOffset source x y + 4)) :
    ¬InRow source width y offset := by
  intro hin
  have hcolumns : 0 < pushedColumns source width := by
    obtain ⟨hlow, hhigh⟩ := hin
    omega
  rw [hinput.inRow_iff hy (hfits hcolumns)] at hin
  -- the pixel of the row that the offset belongs to
  let x := ((offset - y * source.stride.toInt) / 4).toNat
  apply houtside x y ⟨by omega, hy⟩
  rw [pixelOffset]
  omega

/-- Stores of a pixel whose row offsets were computed exactly are inside both buffers. -/
theorem PushInput.inside_pixelStores {x y : Nat} {store : Store}
    (hpushed : Pushed source width height x y) (hdst : y * source.stride.toInt < 2 ^ 31)
    (hsrc : y * (3 * width.toInt) < 2 ^ 31)
    (hstore : store ∈ pixelStores (dstOffset source y) (srcOffset width y) (Int32.ofNat x)) :
    store.Inside size width height := by
  obtain ⟨hx, hy⟩ := hpushed
  have hcolumns := hinput.columns_le
  have hfit := hinput.columns_fit
  constructor
  · obtain ⟨k, hk, hklt, heq⟩ := pixelStores_dst (by omega) hstore
    have hrows := hinput.rows_le
    have hlow : 0 ≤ y * source.stride.toInt := Int.mul_nonneg (by omega) hinput.stride_nonneg
    rw [heq, hinput.dstOffset_eq hy hdst]
    refine ⟨by omega, Int.lt_of_lt_of_le ?_ hinput.holds⟩
    apply row_offset_lt hinput.stride_nonneg (y := y)
    · omega
    · omega
  · intro src heq
    obtain ⟨k, hk, hklt, rfl⟩ := pixelStores_src (by omega) hstore heq
    have hwidth := hinput.columns_le_width
    have hrows := hinput.rows_le_height
    have hlow : 0 ≤ y * (3 * width.toInt) := Int.mul_nonneg (by omega) (by omega)
    rw [hinput.srcOffset_eq hy hsrc]
    refine ⟨by omega, ?_⟩
    apply row_offset_lt (y := y)
    · omega
    · omega
    · omega

/-- The result of the push is that of its loops. -/
theorem PushInput.push_eq (rgb bytes : Int → UInt8) :
    k4wPwSourcePushFrame (source.withBytes size bytes) rgb width height =
      (0, source.withBytes size
        (rowsStored source rgb bytes width (pushedRows source height))) := by
  simp only [k4wPwSourcePushFrame, Source.withBytes, hinput.stream]
  rfl

theorem pushesFrame_of_offsetsFit (hfit : OffsetsFit source width height) :
    PushesFrame source size width height := by
  intro rgb bytes
  refine ⟨_, hinput.push_eq rgb bytes, ?_, ?_, ?_⟩
  · intro x y hpushed
    have hrows := hfit (Nat.zero_lt_of_lt hpushed.1)
    have hframe : framePixel width x y = srcOffset width y + 3 * x := by
      rw [hinput.srcOffset_eq hpushed.2 (hrows y hpushed.2).1, framePixel]
      ring
    rw [hframe]
    exact hinput.hasPixel rgb bytes (fun y hy => (hrows y hy).2) hpushed
  · intro offset _ _ houtside
    apply rowsStored_outside rgb bytes hinput.columns_fit
    intro y hy
    exact hinput.not_inRow_of_outside (fun hcolumns => (hfit hcolumns y hy).2) hy houtside
  · intro store hstore
    obtain ⟨y, hy, hrow⟩ := List.mem_flatMap.mp hstore
    obtain ⟨x, hx, hpixel⟩ := List.mem_flatMap.mp hrow
    rw [List.mem_range] at hy hx
    obtain ⟨hsrc, hdst⟩ := hfit (Nat.zero_lt_of_lt hx) y hy
    exact hinput.inside_pixelStores ⟨hx, hy⟩ hdst hsrc hpixel

/-! ## Offsets that overflow -/

/-- What a push has to do, said of the bytes that the loops leave. -/
theorem PushInput.pixels_of_pushesFrame (hpushes : PushesFrame source size width height)
    (rgb bytes : Int → UInt8) {x y : Nat} (hpushed : Pushed source width height x y) :
    HasPixel (rowsStored source rgb bytes width (pushedRows source height)) rgb
      (pixelOffset source x y) (framePixel width x y) := by
  obtain ⟨stored, hpush, hpixels, -⟩ := hpushes rgb bytes
  rw [hinput.push_eq rgb bytes] at hpush
  have hbuffers := Option.some.inj (congrArg (Source.frameBuf ∘ Prod.snd) hpush)
  have hbytes : rowsStored source rgb bytes width (pushedRows source height) = stored :=
    congrArg Buffer.bytes hbuffers
  rw [hbytes]
  exact hpixels x y hpushed

/-- No row is stored where a row belongs whose offset overflows and that no row follows. -/
theorem PushInput.not_inRow_of_overflow {y last : Nat} {offset : Int}
    (hlast : last < pushedRows source height)
    (hover : 2 ^ 31 ≤ last * source.stride.toInt) (hy : y ≤ last)
    (hoffset : last * source.stride.toInt ≤ offset) : ¬InRow source width y offset := by
  have hcolumns := hinput.columns_le
  have hfit := hinput.columns_fit
  by_cases hfits : y * source.stride.toInt < 2 ^ 31
  · have hlt : y < last := Nat.lt_of_le_of_ne hy fun heq => by
      rw [heq] at hfits
      omega
    have hend := row_end_le hinput.stride_nonneg hlt
    rw [hinput.inRow_iff (by omega) hfits]
    omega
  · have hle : y * source.stride.toInt ≤ last * source.stride.toInt :=
      Int.mul_le_mul_of_nonneg_right (Int.ofNat_le.mpr hy) hinput.stride_nonneg
    have hlow := bmod_of_overflow (Int.not_lt.mp hfits)
    rw [InRow, dstOffset_eq_bmod source (hinput.row_lt (by omega))]
    omega

/-- An overflow of `y * s_stride` leaves the last row of the frame buffer as it was. -/
theorem PushInput.dst_fits (hpushes : PushesFrame source size width height)
    (hcolumns : 0 < pushedColumns source width) {y : Nat} (hy : y < pushedRows source height) :
    y * source.stride.toInt < 2 ^ 31 := by
  by_contra hover
  obtain ⟨last, hlast⟩ : ∃ last, pushedRows source height = last + 1 :=
    ⟨pushedRows source height - 1, by omega⟩
  have hle : y * source.stride.toInt ≤ last * source.stride.toInt :=
    Int.mul_le_mul_of_nonneg_right (by omega) hinput.stride_nonneg
  have hstored := (hinput.pixels_of_pushesFrame hpushes (fun _ => 0) (fun _ => 1)
    (x := 0) (y := last) ⟨hcolumns, by omega⟩).unused
  rw [rowsStored_outside _ _ hinput.columns_fit] at hstored
  · exact absurd hstored (by decide)
  · intro row hrow
    refine hinput.not_inRow_of_overflow (show last < pushedRows source height by omega)
      (by omega) (by omega) ?_
    rw [pixelOffset]
    omega

/-- An overflow of `y * src_stride` reads another pixel than that of the row. -/
theorem PushInput.src_fits (hpushes : PushesFrame source size width height)
    (hcolumns : 0 < pushedColumns source width) {y : Nat} (hy : y < pushedRows source height) :
    y * (3 * width.toInt) < 2 ^ 31 := by
  by_contra hover
  -- a frame that is black but for the red byte of the row's first pixel
  let rgb : Int → UInt8 := fun offset => if offset = y * (3 * width.toInt) then 1 else 0
  have hpushed : Pushed source width height 0 y := ⟨hcolumns, hy⟩
  have hwanted := (hinput.pixels_of_pushesFrame hpushes rgb (fun _ => 0) hpushed).red
  have hread := (hinput.hasPixel rgb (fun _ => 0)
    (fun _ => hinput.dst_fits hpushes hcolumns) hpushed).red
  rw [hread] at hwanted
  have hlow := bmod_of_overflow (Int.not_lt.mp hover)
  have hframe : framePixel width 0 y = y * (3 * width.toInt) := by
    rw [framePixel]
    ring
  rw [srcOffset_eq_bmod width (hinput.row_lt hy), hframe] at hwanted
  simp only [rgb] at hwanted
  rw [if_neg (by omega), if_pos trivial] at hwanted
  exact absurd hwanted (by decide)

theorem PushInput.offsetsFit (hpushes : PushesFrame source size width height) :
    OffsetsFit source width height :=
  fun hcolumns _ hy =>
    ⟨hinput.src_fits hpushes hcolumns hy, hinput.dst_fits hpushes hcolumns hy⟩

/--
A push stores the common pixels in BGRx, leaves every other byte and stays in
both buffers exactly when the row offsets of the two strides fit an `int` for
every pushed row.
-/
theorem pushesFrame_iff_offsetsFit :
    PushesFrame source size width height ↔ OffsetsFit source width height := by
  constructor
  · exact hinput.offsetsFit
  · exact pushesFrame_of_offsetsFit hinput

end Input

/-- A frame of 640 by 480 pixels is stored into a larger negotiated size. -/
theorem pushesFrame_larger : PushesFrame (initialized 800 600) 1920000 640 480 := by
  have hinput : PushInput (initialized 800 600) 1920000 640 480 :=
    ⟨rfl, by decide, by decide, by decide, by decide, by decide, by decide⟩
  refine (pushesFrame_iff_offsetsFit hinput).mpr fun _ y hy => ?_
  have hrows := Nat.lt_of_lt_of_eq hy (show pushedRows (initialized 800 600) 480 = 480 by rfl)
  have hwidth : (640 : Int32).toInt = 640 := rfl
  have hstride : (initialized 800 600).stride.toInt = 3200 := rfl
  rw [hwidth, hstride]
  omega

/-- The rows of a large frame are read from before the frame from row 10923 on. -/
theorem not_pushesFrame_largeFrame :
    ¬ ∀ (source : Source) (size : Nat) (width height : Int32),
      PushInput source size width height → PushesFrame source size width height := by
  intro hall
  have hinput : PushInput (initialized 640 16384) 41943040 65536 16384 :=
    ⟨rfl, by decide, by decide, by decide, by decide, by decide, by decide⟩
  have hfits := hinput.src_fits (hall _ _ _ _ hinput) (by decide) (y := 10923) (by decide)
  exact absurd hfits (by decide)

end K4W.PipeWire
