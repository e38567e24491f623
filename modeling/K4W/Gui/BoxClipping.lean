import K4W.Gui.Detections

/-!
# Boxes at the border of the image

`postprocessDetection` casts the origin and the extent of a box apart from each
other, and moves a negative origin to zero without a change of the extent.  Over
exact coordinates a box that is moved so ends behind the detected rectangle,
unless the image or the truncation of the extent cuts it off.
-/

namespace K4W.Gui.Detections

open K4W.Library
open K4W.Library.Binary

/-! ## What clipping should do -/

/-- The box ends inside the rectangle that was detected. -/
def EndsInside (detection : Detection Rat) (box : Rect) : Prop :=
  (box.across.stop : Rat) ≤ detection.x2 ∧ (box.down.stop : Rat) ≤ detection.y2

/-- Every box that the loop keeps ends inside its detected rectangle. -/
def BoxesClipped (imgW imgH : Int32) (detections : List (Detection Rat)) : Prop :=
  ∀ detection ∈ detections, ∀ box,
    keptBox imgW imgH detection.candidate = some box → EndsInside detection box

/-- The corners can be cast to `int`, and the second one is not in front of the first one. -/
structure WellPlaced (detection : Detection Rat) : Prop where
  across : detection.x1 ≤ detection.x2
  down : detection.y1 ≤ detection.y2
  left : -2 ^ 31 ≤ detection.x1 ∧ detection.x1 < 2 ^ 31
  top : -2 ^ 31 ≤ detection.y1 ∧ detection.y1 < 2 ^ 31
  right : -2 ^ 31 ≤ detection.x2 ∧ detection.x2 < 2 ^ 31
  bottom : -2 ^ 31 ≤ detection.y2 ∧ detection.y2 < 2 ^ 31

/-! ## One axis -/

/-- More than ten pixels remain of the side when it is clamped and cast. -/
def LongSide (size : Int32) (low high : Rat) : Prop :=
  max 0 low < size.toInt - 10 ∧ 11 ≤ high - low ∧ high - low < 2 ^ 31

/-- A side is not stretched: its start is not moved, or its end is cut off. -/
def Unstretched (size : Int32) (low high : Rat) : Prop :=
  0 ≤ low ∨ (size.toInt : Rat) ≤ high ∨ (⌊high - low⌋ : Rat) ≤ high

/-- The side of a candidate: the casts of the lower corner and of the extent. -/
def castSide (low high : Rat) : Stretch Int where
  start := (CInt.castToInt (some (Number.towardsZero low))).toInt
  len := (CInt.castToInt (some (Number.towardsZero (high - low)))).toInt

theorem towardsZero_of_nonneg {value : Rat} (hvalue : 0 ≤ value) :
    Number.towardsZero value = ⌊value⌋ :=
  if_neg (not_lt.mpr hvalue)

section Axis

variable {size : Int32} {low high : Rat}

/-- The start that is clamped: the floor of the lower corner, or zero. -/
theorem castSide_start (hlow : -2 ^ 31 ≤ low) (hlimit : low < 2 ^ 31) :
    max 0 (castSide low high).start = ⌊max 0 low⌋ := by
  by_cases hneg : low < 0
  · have hceil : Number.towardsZero low = ⌈low⌉ := if_pos hneg
    have hnonpos : ⌈low⌉ ≤ 0 := Int.ceil_le.mpr (by exact_mod_cast le_of_lt hneg)
    have hbelow : -2 ^ 31 ≤ ⌈low⌉ := by
      have hle := hlow.trans (Int.le_ceil low)
      exact_mod_cast hle
    have hcast : (castSide low high).start = ⌈low⌉ := by
      rw [castSide, hceil]
      exact CInt.castToInt_of_range hbelow (by omega)
    rw [hcast, max_eq_left hnonpos, max_eq_left (le_of_lt hneg), Int.floor_zero]
  · have hnonneg : 0 ≤ low := not_lt.mp hneg
    have hfloor : 0 ≤ ⌊low⌋ := Int.floor_nonneg.mpr hnonneg
    have habove : ⌊low⌋ < 2 ^ 31 := Int.floor_lt.mpr (by exact_mod_cast hlimit)
    have hcast : (castSide low high).start = ⌊low⌋ := by
      rw [castSide, towardsZero_of_nonneg hnonneg]
      exact CInt.castToInt_of_range (by omega) habove
    rw [hcast, max_eq_right hfloor, max_eq_right hnonneg]

/-- The extent that is cast: its floor, or the least `int` when it is too long. -/
theorem castSide_len (hordered : low ≤ high) :
    (castSide low high).len = if high - low < 2 ^ 31 then ⌊high - low⌋ else -2 ^ 31 := by
  have hnonneg : 0 ≤ high - low := sub_nonneg.mpr hordered
  have hfloor : 0 ≤ ⌊high - low⌋ := Int.floor_nonneg.mpr hnonneg
  rw [castSide, towardsZero_of_nonneg hnonneg]
  dsimp only
  by_cases hfits : high - low < 2 ^ 31
  · rw [if_pos hfits]
    exact CInt.castToInt_of_range (by omega) (Int.floor_lt.mpr (by exact_mod_cast hfits))
  · have hover : 2 ^ 31 ≤ ⌊high - low⌋ := Int.le_floor.mpr (by exact_mod_cast not_lt.mp hfits)
    rw [if_neg hfits, CInt.castToInt_of_overflow hover]
    rfl

/-- When a clamped side has more than ten pixels. -/
theorem long_iff (hordered : low ≤ high) (hlow : -2 ^ 31 ≤ low) (hlimit : low < 2 ^ 31) :
    10 < ((castSide low high).clip size.toInt).len ↔ LongSide size low high := by
  have hstart : ⌊max 0 low⌋ < size.toInt - 10 ↔ max 0 low < size.toInt - 10 := by
    rw [Int.floor_lt]
    push_cast
    exact Iff.rfl
  have hlen : 10 < (castSide low high).len ↔ 11 ≤ high - low ∧ high - low < 2 ^ 31 := by
    rw [castSide_len hordered]
    split
    case isTrue hfits =>
        rw [and_iff_left hfits, ← Int.add_one_le_iff, Int.le_floor]
        norm_num
    case isFalse hover => simp [hover]
  rw [Stretch.clip, lt_min_iff, castSide_start hlow hlimit, hlen, LongSide, ← hstart]
  refine and_congr_left fun _ => ?_
  omega

/-- When a clamped side of exact coordinates is not stretched. -/
theorem stop_le_iff (hordered : low ≤ high) (hlow : -2 ^ 31 ≤ low) (hlimit : low < 2 ^ 31)
    (hfits : high - low < 2 ^ 31) :
    (((castSide low high).clip size.toInt).stop : Rat) ≤ high ↔ Unstretched size low high := by
  rw [Stretch.clip_stop, castSide_start hlow hlimit, castSide_len hordered, if_pos hfits,
    Int.cast_min, min_le_iff, Unstretched]
  by_cases hneg : low < 0
  · have hnot : ¬0 ≤ low := not_le.mpr hneg
    rw [max_eq_left (le_of_lt hneg), Int.floor_zero, zero_add]
    simp only [hnot, false_or]
  · have hnonneg : 0 ≤ low := not_lt.mp hneg
    have hsum : ((⌊low⌋ + ⌊high - low⌋ : Int) : Rat) ≤ high := by
      push_cast
      calc
        (⌊low⌋ : Rat) + ⌊high - low⌋ ≤ low + (high - low) :=
          add_le_add (Int.floor_le low) (Int.floor_le (high - low))
        _ = high := by ring
    rw [max_eq_right hnonneg]
    exact iff_of_true (.inr hsum) (.inl hnonneg)

end Axis

/-! ## Both axes -/

/-- A person with two long sides has both of them unstretched. -/
def FitsRectangle (imgW imgH : Int32) (detection : Detection Rat) : Prop :=
  isPerson detection.score detection.classId = true →
    LongSide imgW detection.x1 detection.x2 → LongSide imgH detection.y1 detection.y2 →
      Unstretched imgW detection.x1 detection.x2 ∧ Unstretched imgH detection.y1 detection.y2

section Boxes

variable {imgW imgH : Int32} (hw : 0 ≤ imgW.toInt) (hh : 0 ≤ imgH.toInt)

/-- A box is kept for a person whose sides are both long. -/
theorem isLarge_clamped {detection : Detection Rat} (hplaced : WellPlaced detection) {box : Rect}
    (hacross : box.across = detection.candidate.across.clip imgW.toInt)
    (hdown : box.down = detection.candidate.down.clip imgH.toInt) :
    box.isLarge = true ↔
      LongSide imgW detection.x1 detection.x2 ∧ LongSide imgH detection.y1 detection.y2 := by
  have hwidth : 10 < box.width.toInt ↔ LongSide imgW detection.x1 detection.x2 := by
    have hlen : box.width.toInt = (detection.candidate.across.clip imgW.toInt).len :=
      congrArg Stretch.len hacross
    rw [hlen]
    exact long_iff hplaced.across hplaced.left.1 hplaced.left.2
  have hheight : 10 < box.height.toInt ↔ LongSide imgH detection.y1 detection.y2 := by
    have hlen : box.height.toInt = (detection.candidate.down.clip imgH.toInt).len :=
      congrArg Stretch.len hdown
    rw [hlen]
    exact long_iff hplaced.down hplaced.top.1 hplaced.top.2
  rw [isLarge_iff, hwidth, hheight]

include hw hh

/-- The box of one detection ends inside its rectangle exactly when that fits. -/
theorem endsInside_iff {detection : Detection Rat} (hplaced : WellPlaced detection) :
    (∀ box, keptBox imgW imgH detection.candidate = some box → EndsInside detection box) ↔
      FitsRectangle imgW imgH detection := by
  obtain ⟨clamped, hclamped, hacross, hdown⟩ := clampBox_eq hw hh detection.candidate
  have hlarge := isLarge_clamped hplaced hacross hdown
  have hends : LongSide imgW detection.x1 detection.x2 →
      LongSide imgH detection.y1 detection.y2 →
        (EndsInside detection clamped ↔
          Unstretched imgW detection.x1 detection.x2 ∧
            Unstretched imgH detection.y1 detection.y2) := by
    intro hlongW hlongH
    rw [EndsInside, hacross, hdown]
    exact and_congr
      (stop_le_iff hplaced.across hplaced.left.1 hplaced.left.2 hlongW.2.2)
      (stop_le_iff hplaced.down hplaced.top.1 hplaced.top.2 hlongH.2.2)
  constructor
  · intro hall hperson hlongW hlongH
    refine (hends hlongW hlongH).mp (hall clamped ?_)
    have hcandidate :
        isPerson detection.candidate.score detection.candidate.classId = true := hperson
    rw [keptBox, if_pos hcandidate, hclamped, Option.filter_some,
      if_pos (hlarge.mpr ⟨hlongW, hlongH⟩)]
  · intro hfits box hkept
    obtain ⟨hperson, hbox, hboxAcross, hboxDown⟩ := of_keptBox hw hh hkept
    obtain ⟨hlongW, hlongH⟩ := (isLarge_clamped hplaced hboxAcross hboxDown).mp hbox
    have hunstretched := hfits hperson hlongW hlongH
    have hclampedEnds := (hends hlongW hlongH).mpr hunstretched
    rw [EndsInside, hboxAcross, hboxDown, ← hacross, ← hdown]
    exact hclampedEnds

/--
Over exact coordinates the loop keeps the boxes of the detections in order, and
they end inside the detected rectangles exactly when every detection fits.
-/
theorem boxesClipped_iff_fits (detections : List (Detection Rat))
    (hplaced : ∀ detection ∈ detections, WellPlaced detection) :
    (∃ kept, keepCandidates imgW imgH (detections.map Detection.candidate) = some kept ∧
      kept.boxes = detections.filterMap fun detection =>
        keptBox imgW imgH detection.candidate) ∧
      (BoxesClipped imgW imgH detections ↔
        ∀ detection ∈ detections, FitsRectangle imgW imgH detection) := by
  constructor
  · refine ⟨_, keepCandidates_eq hw hh _, ?_⟩
    rw [List.filterMap_map]
    rfl
  · exact forall₂_congr fun detection hmem => endsInside_iff hw hh (hplaced detection hmem)

end Boxes

/-! ## The floats of the source -/

/-- Exact coordinates of a detection whose differences need no rounding. -/
structure Exactly (detection : Detection Single) (exact : Detection Rat) : Prop where
  score : detection.score = exact.score
  classId : detection.classId = exact.classId
  x1 : detection.x1.value? = some exact.x1
  y1 : detection.y1.value? = some exact.y1
  width : (detection.x2.sub detection.x1).value? = some (exact.x2 - exact.x1)
  height : (detection.y2.sub detection.y1).value? = some (exact.y2 - exact.y1)

theorem represents_zero_binary32 : binary32.Represents 0 :=
  Number.represents_zero binary32 (by decide) (by decide)

/-- Floats are exact when the differences of their values are floats too. -/
theorem Exactly.of_represents {exact : Detection Rat} (hx1 : binary32.Represents exact.x1)
    (hy1 : binary32.Represents exact.y1) (hx2 : binary32.Represents exact.x2)
    (hy2 : binary32.Represents exact.y2)
    (hwidth : binary32.Represents (exact.x2 - exact.x1))
    (hheight : binary32.Represents (exact.y2 - exact.y1)) :
    Exactly
      { exact with
        y1 := .finite exact.y1 hy1
        x1 := .finite exact.x1 hx1
        y2 := .finite exact.y2 hy2
        x2 := .finite exact.x2 hx2 }
      exact where
  score := rfl
  classId := rfl
  x1 := rfl
  y1 := rfl
  width := Number.sub_value hx2 hx1 represents_zero_binary32 hwidth
  height := Number.sub_value hy2 hy1 represents_zero_binary32 hheight

/-- Without rounding, the floats lead to the casts of the exact coordinates. -/
theorem Exactly.candidate_eq {detection : Detection Single} {exact : Detection Rat}
    (hexactly : Exactly detection exact) : detection.candidate = exact.candidate := by
  have htruncate : ∀ {number : Single} {value : Rat}, number.value? = some value →
      Coordinate.truncate number = Coordinate.truncate value := by
    intro number value hvalue
    change number.truncate? = some (Number.towardsZero value)
    rw [Number.truncate?, hvalue]
    rfl
  have hwidth := htruncate hexactly.width
  have hheight := htruncate hexactly.height
  simp only [Detection.candidate, hexactly.score, hexactly.classId, htruncate hexactly.x1,
    htruncate hexactly.y1]
  congr 1
  · exact congrArg CInt.castToInt hwidth
  · exact congrArg CInt.castToInt hheight

/-! ## Persons at the border -/

/-- A person 100 pixels high from row 10 on, in these columns. -/
def personAcross (x1 x2 : Rat) : Detection Rat where
  score := .ofInt binary32 1
  classId := 0
  y1 := 10
  x1 := x1
  y2 := 110
  x2 := x2

/-- A score of one is not below one half. -/
theorem isPerson_personAcross (x1 x2 : Rat) :
    isPerson (personAcross x1 x2).score (personAcross x1 x2).classId = true := by
  have hone : binary32.Represents ((1 : Int) : Rat) :=
    Number.represents_intCast (by decide) (by decide) (by decide)
  have hhalf : binary32.Represents (((1 : Int) : Rat) / 2) :=
    Number.represents_half (by decide) (by decide) (by decide)
  have hscore : (personAcross x1 x2).score = .finite ((1 : Int) : Rat) hone :=
    Number.round_eq hone
  have hlimit : Number.round binary32 (1 / 2) = .finite (((1 : Int) : Rat) / 2) hhalf := by
    rw [← Number.round_eq hhalf, Int.cast_one]
  have habove : ((personAcross x1 x2).score.lt (.round binary32 (1 / 2))) = false := by
    rw [hscore, hlimit, Number.lt_finite]
    norm_num
  rw [isPerson, habove]
  rfl

theorem wellPlaced_personAcross {x1 x2 : Rat} (hordered : x1 ≤ x2)
    (hlow : -2 ^ 31 ≤ x1) (hhigh : x2 < 2 ^ 31) : WellPlaced (personAcross x1 x2) where
  across := hordered
  down := by norm_num [personAcross]
  left := ⟨hlow, lt_of_le_of_lt hordered hhigh⟩
  top := by norm_num [personAcross]
  right := ⟨hlow.trans hordered, hhigh⟩
  bottom := by norm_num [personAcross]

theorem boxesClipped_inView :
    BoxesClipped 640 480 [personAcross 20 (241 / 2)] := by
  have hplaced : WellPlaced (personAcross 20 (241 / 2)) :=
    wellPlaced_personAcross (by norm_num) (by norm_num) (by norm_num)
  refine (boxesClipped_iff_fits (by decide) (by decide) _ ?_).2.mpr ?_
  · simpa using hplaced
  · simp only [List.mem_singleton, forall_eq]
    intro _ _ _
    exact ⟨.inl (by norm_num [personAcross]), .inl (by norm_num [personAcross])⟩

/-- Half of this person is left of the image, and the box is twice as wide as the other half. -/
theorem not_boxesClipped_leftBorder :
    ¬ ∀ (imgW imgH : Int32), 0 ≤ imgW.toInt → 0 ≤ imgH.toInt →
      ∀ detections : List (Detection Rat),
        (∀ detection ∈ detections, WellPlaced detection) → BoxesClipped imgW imgH detections := by
  intro hall
  have hplaced : WellPlaced (personAcross (-100) 100) :=
    wellPlaced_personAcross (by norm_num) (by norm_num) (by norm_num)
  have hclipped := hall 640 480 (by decide) (by decide) [personAcross (-100) 100]
    (by simpa using hplaced)
  have hfits := (endsInside_iff (by decide) (by decide) hplaced).mp
    (hclipped _ (List.mem_singleton_self _))
  have hwidth : (640 : Int32).toInt = 640 := rfl
  have hheight : (480 : Int32).toInt = 480 := rfl
  have hlongW : LongSide 640 (-100) 100 := by
    rw [LongSide, hwidth]
    norm_num
  have hlongH : LongSide 480 10 110 := by
    rw [LongSide, hheight]
    norm_num
  have hunstretched : Unstretched 640 (-100) 100 :=
    (hfits (isPerson_personAcross _ _) hlongW hlongH).1
  rw [Unstretched, hwidth] at hunstretched
  norm_num at hunstretched

end K4W.Gui.Detections
