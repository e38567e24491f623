import K4W.Library.Binary
import K4W.Library.CInt
import K4W.Library.Stretch
import K4W.Shm.ReaderBounds

/-!
# Detected persons

`SkeletonTracker::postprocessDetection` makes boxes of the output of the
detector, and `detectAndTrack` cuts a crop around the first ones.  Both clamp an
origin and an extent, on either axis in the same way.  Their `int` arithmetic
has no result where it overflows.
-/

namespace K4W.Gui.Detections

open K4W.Library
open K4W.Library.Binary

abbrev Single := Number binary32

/-! ## The output of the detector -/

/-- Coordinates that `postprocessDetection` can subtract and cast to `int`. -/
class Coordinate (α : Type) where
  sub : α → α → α
  /-- The integer part, unless the coordinate has none. -/
  truncate : α → Option Int

/-- The coordinates of the source. -/
instance : Coordinate Single where
  sub := Number.sub
  truncate := Number.truncate?

/-- Coordinates without rounding. -/
instance : Coordinate Rat where
  sub := fun left right => left - right
  truncate := fun value => some (Number.towardsZero value)

/-- The six floats of one detection, in the order of the output. -/
structure Row where
  y1 : Single
  x1 : Single
  y2 : Single
  x2 : Single
  score : Single
  classId : Single

/-- A detection with its corners scaled to the image. -/
structure Detection (α : Type) where
  score : Single
  classId : Int32
  y1 : α
  x1 : α
  y2 : α
  x2 : α

def Row.scaled (imgW imgH : Int32) (row : Row) : Detection Single :=
  let width : Single := .ofInt binary32 imgW.toInt
  let height : Single := .ofInt binary32 imgH.toInt
  { score := row.score
    classId := CInt.castToInt row.classId.truncate?
    y1 := row.y1.mul height
    x1 := row.x1.mul width
    y2 := row.y2.mul height
    x2 := row.x2.mul width }

/-- What the loop body computes with: the four casts of a detection. -/
structure Candidate where
  score : Single
  classId : Int32
  x : Int32
  y : Int32
  width : Int32
  height : Int32

/-- The casts `(int)x1`, `(int)y1`, `(int)(x2 - x1)`, and `(int)(y2 - y1)`. -/
def Detection.candidate {α : Type} [Coordinate α] (detection : Detection α) : Candidate where
  score := detection.score
  classId := detection.classId
  x := CInt.castToInt (Coordinate.truncate detection.x1)
  y := CInt.castToInt (Coordinate.truncate detection.y1)
  width := CInt.castToInt (Coordinate.truncate (Coordinate.sub detection.x2 detection.x1))
  height := CInt.castToInt (Coordinate.truncate (Coordinate.sub detection.y2 detection.y1))

/-! ## Boxes and crops -/

/-- `cv::Rect` -/
structure Rect where
  x : Int32
  y : Int32
  width : Int32
  height : Int32
deriving DecidableEq

/-- `max(0, start)` and `min(size - max(0, start), len)` -/
def clampAxis (size start len : Int32) : Option (Int32 × Int32) := do
  let origin := max 0 start
  let rest ← CInt.checked (size.toInt - origin.toInt)
  return (origin, min rest len)

/-- `bx`, `by`, `bw`, and `bh` of `postprocessDetection`. -/
def clampBox (imgW imgH : Int32) (candidate : Candidate) : Option Rect := do
  let (bx, bw) ← clampAxis imgW candidate.x candidate.width
  let (by_, bh) ← clampAxis imgH candidate.y candidate.height
  return { x := bx, y := by_, width := bw, height := bh }

/-- A score below one half and any class but 0 are skipped; a NaN is not below. -/
def isPerson (score : Single) (classId : Int32) : Bool :=
  !(score.lt (.round binary32 (1 / 2)) || classId != 0)

/-- `outBoxes` and `outScores` -/
structure Kept where
  boxes : List Rect
  scores : List Single

def Rect.isLarge (box : Rect) : Bool :=
  decide (10 < box.width) && decide (10 < box.height)

/-- The body of the loop over the detections. -/
def keepCandidate (imgW imgH : Int32) (kept : Kept) (candidate : Candidate) : Option Kept :=
  if !isPerson candidate.score candidate.classId then
    some kept
  else do
    let box ← clampBox imgW imgH candidate
    if box.isLarge then
      return { boxes := kept.boxes ++ [box], scores := kept.scores ++ [candidate.score] }
    else
      return kept

/-- The loop of `postprocessDetection`, over the casts of the detections. -/
def keepCandidates (imgW imgH : Int32) (candidates : List Candidate) : Option Kept :=
  candidates.foldlM (keepCandidate imgW imgH) { boxes := [], scores := [] }

/-- `ox`, `oy`, `ow`, and `oh` of `detectAndTrack`. -/
def cropOf (imgW imgH : Int32) (roi : Rect) : Option Rect := do
  let expand := max roi.width roi.height / 4
  let left ← CInt.checked (roi.x.toInt - expand.toInt)
  let top ← CInt.checked (roi.y.toInt - expand.toInt)
  let twice ← CInt.checked (expand.toInt * 2)
  let width ← CInt.checked (roi.width.toInt + twice.toInt)
  let height ← CInt.checked (roi.height.toInt + twice.toInt)
  let (ox, ow) ← clampAxis imgW left width
  let (oy, oh) ← clampAxis imgH top height
  return { x := ox, y := oy, width := ow, height := oh }

/-- A skeleton that `detectAndTrack` appends, and the crop it was estimated in. -/
structure Tracked where
  crop : Rect
  bbox : Rect
  confidence : Single

def trackPerson (imgW imgH : Int32) (person : Rect × Single) : Option Tracked := do
  let crop ← cropOf imgW imgH person.1
  return { crop := crop, bbox := person.1, confidence := person.2 }

/-- The loop over the first boxes, without the networks. -/
def detectAndTrack (enabled modelsLoaded : Bool) (imgW imgH : Int32)
    (candidates : List Candidate) : Option (List Tracked) :=
  if !enabled || !modelsLoaded then
    some []
  else do
    let kept ← keepCandidates imgW imgH candidates
    ((kept.boxes.zip kept.scores).take Shm.skeletonMaxPersons).mapM (trackPerson imgW imgH)

/-! ## Clamping an axis -/

/-- The columns of a rectangle. -/
def Rect.across (rect : Rect) : Stretch Int :=
  ⟨rect.x.toInt, rect.width.toInt⟩

/-- The rows of a rectangle. -/
def Rect.down (rect : Rect) : Stretch Int :=
  ⟨rect.y.toInt, rect.height.toInt⟩

def Candidate.across (candidate : Candidate) : Stretch Int :=
  ⟨candidate.x.toInt, candidate.width.toInt⟩

def Candidate.down (candidate : Candidate) : Stretch Int :=
  ⟨candidate.y.toInt, candidate.height.toInt⟩

/-- Clamping an axis does not overflow, and clips the stretch. -/
theorem clampAxis_eq {size : Int32} (hsize : 0 ≤ size.toInt) (start len : Int32) :
    ∃ origin extent, clampAxis size start len = some (origin, extent) ∧
      Stretch.mk origin.toInt extent.toInt =
        (Stretch.mk start.toInt len.toInt).clip size.toInt := by
  have horigin : (max 0 start).toInt = max 0 start.toInt := CInt.toInt_max 0 start
  have hlow : 0 ≤ (max 0 start).toInt := by
    rw [horigin]
    exact le_max_left _ _
  have hhigh := (max 0 start).toInt_lt
  have hsizeHigh := size.toInt_lt
  obtain ⟨rest, hrest, hvalue⟩ := @CInt.exists_checked (size.toInt - (max 0 start).toInt)
    (by omega) (by omega)
  refine ⟨max 0 start, min rest len, ?_, ?_⟩
  · rw [clampAxis, hrest]
    rfl
  · rw [CInt.toInt_min, hvalue, horigin]
    rfl

section Sizes

variable {imgW imgH : Int32} (hw : 0 ≤ imgW.toInt) (hh : 0 ≤ imgH.toInt)

include hw hh

/-- The box of a candidate is its rectangle, clipped on both axes. -/
theorem clampBox_eq (candidate : Candidate) :
    ∃ box, clampBox imgW imgH candidate = some box ∧
      box.across = candidate.across.clip imgW.toInt ∧
        box.down = candidate.down.clip imgH.toInt := by
  obtain ⟨bx, bw, hx, hacross⟩ := clampAxis_eq hw candidate.x candidate.width
  obtain ⟨by_, bh, hy, hdown⟩ := clampAxis_eq hh candidate.y candidate.height
  refine ⟨⟨bx, by_, bw, bh⟩, ?_, hacross, hdown⟩
  rw [clampBox, hx, hy]
  rfl

end Sizes

/-! ## The loop over the detections -/

/-- The box that the loop body appends for a candidate, if any. -/
def keptBox (imgW imgH : Int32) (candidate : Candidate) : Option Rect :=
  if isPerson candidate.score candidate.classId then
    (clampBox imgW imgH candidate).filter Rect.isLarge
  else
    none

/-- The score that the loop body appends with the box. -/
def keptScore (imgW imgH : Int32) (candidate : Candidate) : Option Single :=
  (keptBox imgW imgH candidate).map fun _ => candidate.score

section Loop

variable {imgW imgH : Int32} (hw : 0 ≤ imgW.toInt) (hh : 0 ≤ imgH.toInt)

include hw hh

/-- One pass of the loop body. -/
theorem keepCandidate_eq (kept : Kept) (candidate : Candidate) :
    keepCandidate imgW imgH kept candidate =
      some {
        boxes := kept.boxes ++ (keptBox imgW imgH candidate).toList
        scores := kept.scores ++ (keptScore imgW imgH candidate).toList } := by
  obtain ⟨box, hbox, -⟩ := clampBox_eq hw hh candidate
  unfold keepCandidate keptScore keptBox
  rw [hbox]
  cases isPerson candidate.score candidate.classId with
  | false => simp
  | true =>
      cases hlarge : box.isLarge with
      | false => simp [Option.filter_some, hlarge]
      | true => simp [Option.filter_some, hlarge]

/-- The whole loop keeps the boxes of the candidates, in order, with their scores. -/
theorem keepCandidates_eq (candidates : List Candidate) :
    keepCandidates imgW imgH candidates =
      some {
        boxes := candidates.filterMap (keptBox imgW imgH)
        scores := candidates.filterMap (keptScore imgW imgH) } := by
  have hfrom : ∀ kept : Kept, candidates.foldlM (keepCandidate imgW imgH) kept =
      some {
        boxes := kept.boxes ++ candidates.filterMap (keptBox imgW imgH)
        scores := kept.scores ++ candidates.filterMap (keptScore imgW imgH) } := by
    induction candidates with
    | nil =>
        intro kept
        simp
    | cons candidate rest ih =>
        intro kept
        rw [List.foldlM_cons, keepCandidate_eq hw hh, Option.bind_eq_bind, Option.bind_some, ih]
        cases hbox : keptBox imgW imgH candidate with
        | none => simp [keptScore, hbox]
        | some box => simp [keptScore, hbox]
  exact hfrom ⟨[], []⟩

end Loop

/-! ## Legal boxes and crops -/

/-- The box is inside the image and more than ten pixels wide and high. -/
structure LegalBox (imgW imgH : Int32) (box : Rect) : Prop where
  across : box.across.Within imgW.toInt
  down : box.down.Within imgH.toInt
  width : 10 < box.width.toInt
  height : 10 < box.height.toInt

/-- The crop is not empty, is inside the image, and contains the box. -/
structure LegalCrop (imgW imgH : Int32) (box crop : Rect) : Prop where
  across : crop.across.Within imgW.toInt
  down : crop.down.Within imgH.toInt
  width : 0 < crop.width.toInt
  height : 0 < crop.height.toInt
  coversAcross : crop.across.Covers box.across
  coversDown : crop.down.Covers box.down

section Legal

variable {imgW imgH : Int32}

/-- What is known of a box that the loop keeps. -/
theorem of_keptBox (hw : 0 ≤ imgW.toInt) (hh : 0 ≤ imgH.toInt) {candidate : Candidate}
    {box : Rect} (hkept : keptBox imgW imgH candidate = some box) :
    isPerson candidate.score candidate.classId = true ∧ box.isLarge = true ∧
      box.across = candidate.across.clip imgW.toInt ∧
        box.down = candidate.down.clip imgH.toInt := by
  obtain ⟨clamped, hclamped, hacross, hdown⟩ := clampBox_eq hw hh candidate
  unfold keptBox at hkept
  split at hkept
  case isTrue hperson =>
      rw [hclamped, Option.filter_some] at hkept
      split at hkept
      case isTrue hlarge =>
          obtain rfl := Option.some.inj hkept
          exact ⟨hperson, hlarge, hacross, hdown⟩
      case isFalse => cases hkept
  case isFalse => cases hkept

theorem isLarge_iff {box : Rect} :
    box.isLarge = true ↔ 10 < box.width.toInt ∧ 10 < box.height.toInt := by
  rw [Rect.isLarge, Bool.and_eq_true, decide_eq_true_iff, decide_eq_true_iff,
    Int32.lt_iff_toInt_lt, Int32.lt_iff_toInt_lt]
  exact Iff.rfl

theorem legalBox_of_keptBox (hw : 0 ≤ imgW.toInt) (hh : 0 ≤ imgH.toInt) {candidate : Candidate}
    {box : Rect} (hkept : keptBox imgW imgH candidate = some box) : LegalBox imgW imgH box := by
  obtain ⟨-, hlarge, hacross, hdown⟩ := of_keptBox hw hh hkept
  obtain ⟨hwidth, hheight⟩ := isLarge_iff.mp hlarge
  refine ⟨?_, ?_, hwidth, hheight⟩
  · rw [hacross]
    exact Stretch.clip_within _ _
  · rw [hdown]
    exact Stretch.clip_within _ _

/-- The quarter of a side is rounded down. -/
theorem quarter_toInt {side : Int32} (hlow : 0 ≤ side.toInt) :
    (side / 4).toInt = side.toInt / 4 := by
  rw [Int32.toInt_div_of_ne_right _ _ (by decide)]
  exact Int.tdiv_eq_ediv_of_nonneg hlow

/-- On one axis: a stretch inside the image is widened, and clamped again. -/
theorem clampAxis_around {size start len low extent : Int32} {margin : Int}
    (hwithin : (Stretch.mk start.toInt len.toInt).Within size.toInt) (hpos : 0 < len.toInt)
    (hmargin : 0 ≤ margin) (hlow : low.toInt = start.toInt - margin)
    (hextent : extent.toInt = len.toInt + (margin + margin)) :
    ∃ origin cut, clampAxis size low extent = some (origin, cut) ∧
      (Stretch.mk origin.toInt cut.toInt).Within size.toInt ∧ 0 < cut.toInt ∧
        (Stretch.mk origin.toInt cut.toInt).Covers ⟨start.toInt, len.toInt⟩ := by
  have hsize : 0 ≤ size.toInt := by
    have hstop := hwithin.2
    simp only [Stretch.stop] at hstop
    have hstart := hwithin.1
    dsimp only at hstart
    omega
  obtain ⟨origin, cut, hclamp, hclip⟩ := clampAxis_eq hsize low extent
  have hwidened : Stretch.mk low.toInt extent.toInt =
      (Stretch.mk start.toInt len.toInt).widen margin := by
    rw [hlow, hextent, Stretch.widen]
  have hcovers : (Stretch.mk origin.toInt cut.toInt).Covers ⟨start.toInt, len.toInt⟩ := by
    rw [hclip, hwidened]
    exact Stretch.clip_covers hwithin (Stretch.widen_covers hmargin _)
  refine ⟨origin, cut, hclamp, ?_, ?_, hcovers⟩
  · rw [hclip]
    exact Stretch.clip_within _ _
  · exact lt_of_lt_of_le hpos hcovers.len_le

/-- Around a legal box of an image of at most `2 ^ 30` the crop is computed, and legal. -/
theorem LegalBox.crop {box : Rect} (hlegal : LegalBox imgW imgH box)
    (hw : imgW.toInt ≤ 2 ^ 30) (hh : imgH.toInt ≤ 2 ^ 30) :
    ∃ crop, cropOf imgW imgH box = some crop ∧ LegalCrop imgW imgH box crop := by
  obtain ⟨hacross, hdown, hwidth, hheight⟩ := hlegal
  obtain ⟨hx, hright⟩ := hacross
  obtain ⟨hy, hbottom⟩ := hdown
  simp only [Stretch.stop, Rect.across, Rect.down] at hx hright hy hbottom
  have hside : (max box.width box.height).toInt = max box.width.toInt box.height.toInt :=
    CInt.toInt_max _ _
  have hexpand : (max box.width box.height / 4).toInt =
      max box.width.toInt box.height.toInt / 4 := by
    rw [quarter_toInt (by omega), hside]
  obtain ⟨expand, hdefined⟩ : ∃ expand, max box.width box.height / 4 = expand := ⟨_, rfl⟩
  rw [hdefined] at hexpand
  have hmargin : 0 ≤ expand.toInt ∧ expand.toInt ≤ 2 ^ 28 := by omega
  obtain ⟨left, hleft, hleftValue⟩ := @CInt.exists_checked (box.x.toInt - expand.toInt)
    (by omega) (by omega)
  obtain ⟨top, htop, htopValue⟩ := @CInt.exists_checked (box.y.toInt - expand.toInt)
    (by omega) (by omega)
  obtain ⟨twice, htwice, htwiceValue⟩ := @CInt.exists_checked (expand.toInt * 2)
    (by omega) (by omega)
  obtain ⟨width, hwide, hwideValue⟩ := @CInt.exists_checked (box.width.toInt + twice.toInt)
    (by omega) (by omega)
  obtain ⟨height, hhigh, hhighValue⟩ := @CInt.exists_checked (box.height.toInt + twice.toInt)
    (by omega) (by omega)
  obtain ⟨ox, ow, hox, hacross, how, hcoversAcross⟩ := @clampAxis_around imgW box.x box.width
    left width expand.toInt ⟨hx, hright⟩ (by omega) hmargin.1 hleftValue (by omega)
  obtain ⟨oy, oh, hoy, hdown, hoh, hcoversDown⟩ := @clampAxis_around imgH box.y box.height
    top height expand.toInt ⟨hy, hbottom⟩ (by omega) hmargin.1 htopValue (by omega)
  refine ⟨⟨ox, oy, ow, oh⟩, ?_, ⟨hacross, hdown, how, hoh, hcoversAcross, hcoversDown⟩⟩
  simp only [cropOf, hdefined, hleft, htop, htwice, hwide, hhigh, hox, hoy, Option.bind_eq_bind,
    Option.bind_some]
  rfl

/-- Results of one property each, collected in the order of the list. -/
theorem mapM_forall₂ {α β : Type} {f : α → Option β} {Relates : α → β → Prop} {list : List α}
    (hall : ∀ item ∈ list, ∃ result, f item = some result ∧ Relates item result) :
    ∃ results, list.mapM f = some results ∧ List.Forall₂ Relates list results := by
  induction list with
  | nil => exact ⟨[], rfl, .nil⟩
  | cons item rest ih =>
      obtain ⟨result, hresult, hrelates⟩ := hall item List.mem_cons_self
      obtain ⟨results, hresults, hrest⟩ := ih fun other hmem =>
        hall other (List.mem_cons_of_mem _ hmem)
      refine ⟨result :: results, ?_, .cons hrelates hrest⟩
      rw [List.mapM_cons, hresult, hresults]
      rfl

theorem exists_mem_right {α β : Type} {Relates : α → β → Prop} {list : List α} {results : List β}
    (hall : List.Forall₂ Relates list results) :
    ∀ item ∈ list, ∃ result ∈ results, Relates item result := by
  induction hall with
  | nil => exact List.forall_mem_nil _
  | cons hrelates _ ih =>
      refine List.forall_mem_cons.mpr ⟨⟨_, List.mem_cons_self, hrelates⟩, fun item hmem => ?_⟩
      obtain ⟨result, hresult, hother⟩ := ih item hmem
      exact ⟨result, List.mem_cons_of_mem _ hresult, hother⟩

theorem exists_mem_left {α β : Type} {Relates : α → β → Prop} {list : List α} {results : List β}
    (hall : List.Forall₂ Relates list results) :
    ∀ result ∈ results, ∃ item ∈ list, Relates item result :=
  exists_mem_right (List.Forall₂.flip hall)

/-- The image is not empty, and its sides are of at most `2 ^ 30` pixels. -/
structure ImageSize (imgW imgH : Int32) : Prop where
  width_pos : 1 ≤ imgW.toInt
  width_le : imgW.toInt ≤ 2 ^ 30
  height_pos : 1 ≤ imgH.toInt
  height_le : imgH.toInt ≤ 2 ^ 30

/-- The loop over the detections does not overflow, and keeps legal boxes only. -/
theorem keepCandidates_legal (hsize : ImageSize imgW imgH) (candidates : List Candidate) :
    ∃ kept, keepCandidates imgW imgH candidates = some kept ∧
      ∀ box ∈ kept.boxes, LegalBox imgW imgH box := by
  have hw : 0 ≤ imgW.toInt := le_trans Int.one_nonneg hsize.width_pos
  have hh : 0 ≤ imgH.toInt := le_trans Int.one_nonneg hsize.height_pos
  refine ⟨_, keepCandidates_eq hw hh candidates, fun box hmem => ?_⟩
  obtain ⟨candidate, -, hkept⟩ := List.mem_filterMap.mp hmem
  exact legalBox_of_keptBox hw hh hkept

/-- The loop over the first boxes does not overflow, and crops legally only. -/
theorem detectAndTrack_legal (hsize : ImageSize imgW imgH) (enabled modelsLoaded : Bool)
    (candidates : List Candidate) :
    ∃ tracked, detectAndTrack enabled modelsLoaded imgW imgH candidates = some tracked ∧
      ∀ person ∈ tracked, LegalBox imgW imgH person.bbox ∧
        LegalCrop imgW imgH person.bbox person.crop := by
  unfold detectAndTrack
  split
  case isTrue => exact ⟨[], rfl, List.forall_mem_nil _⟩
  case isFalse =>
      obtain ⟨kept, hkept, hboxes⟩ := keepCandidates_legal hsize candidates
      have hcrops : ∀ pair ∈ (kept.boxes.zip kept.scores).take Shm.skeletonMaxPersons,
          LegalBox imgW imgH pair.1 ∧
            ∃ crop, cropOf imgW imgH pair.1 = some crop ∧ LegalCrop imgW imgH pair.1 crop := by
        intro pair hmem
        have hbox := (List.of_mem_zip (List.mem_of_mem_take hmem)).1
        have hlegal := hboxes pair.1 hbox
        exact ⟨hlegal, hlegal.crop hsize.width_le hsize.height_le⟩
      have htracks : ∀ pair ∈ (kept.boxes.zip kept.scores).take Shm.skeletonMaxPersons,
          ∃ person, trackPerson imgW imgH pair = some person ∧
            LegalBox imgW imgH person.bbox ∧ LegalCrop imgW imgH person.bbox person.crop := by
        intro pair hmem
        obtain ⟨hlegal, crop, hcrop, hcropLegal⟩ := hcrops pair hmem
        refine ⟨⟨crop, pair.1, pair.2⟩, ?_, hlegal, hcropLegal⟩
        rw [trackPerson, hcrop]
        rfl
      obtain ⟨tracked, htracked, hall⟩ := mapM_forall₂ htracks
      refine ⟨tracked, ?_, ?_⟩
      · rw [hkept]
        exact htracked
      · intro person hmem
        obtain ⟨pair, -, hlegal⟩ := exists_mem_left hall person hmem
        exact hlegal

/--
The loop over the detections keeps legal boxes, each of them has a legal crop,
and the crops that are cut are legal; nothing overflows.
-/
def CropsLegal (imgW imgH : Int32) (candidates : List Candidate) : Prop :=
  (∃ kept, keepCandidates imgW imgH candidates = some kept ∧
    ∀ box ∈ kept.boxes, LegalBox imgW imgH box ∧
      ∃ crop, cropOf imgW imgH box = some crop ∧ LegalCrop imgW imgH box crop) ∧
    ∀ enabled modelsLoaded, ∃ tracked,
      detectAndTrack enabled modelsLoaded imgW imgH candidates = some tracked ∧
        ∀ person ∈ tracked, LegalBox imgW imgH person.bbox ∧
          LegalCrop imgW imgH person.bbox person.crop

/-- Crops are legal for every image, number of detections, and casts of their corners. -/
theorem cropsLegal_of_imageSize (hsize : ImageSize imgW imgH) (candidates : List Candidate) :
    CropsLegal imgW imgH candidates := by
  obtain ⟨kept, hkept, hboxes⟩ := keepCandidates_legal hsize candidates
  refine ⟨⟨kept, hkept, fun box hmem => ?_⟩, fun enabled modelsLoaded => ?_⟩
  · exact ⟨hboxes box hmem, (hboxes box hmem).crop hsize.width_le hsize.height_le⟩
  · exact detectAndTrack_legal hsize enabled modelsLoaded candidates

end Legal

/-- A person at the left edge of an image, and one below its bottom. -/
def edgeCandidates : List Candidate :=
  [⟨.ofInt binary32 1, 0, -100, 10, 200, 100⟩, ⟨.ofInt binary32 1, 0, 50, 2000, 200, 100⟩]

theorem cropsLegal_edges : CropsLegal 640 480 edgeCandidates :=
  cropsLegal_of_imageSize ⟨by decide, by decide, by decide, by decide⟩ edgeCandidates

end K4W.Gui.Detections
