import K4W.Gui.Pose
import K4W.Gui.Skeletons
import K4W.Library.Interchange
import K4W.Library.Loop

/-!
# Drawn skeletons

`SkeletonTracker::drawSkeleton` makes calls of a painter: a box, a line for every
connection, two circles for every keypoint, and a label.  It skips what is faint,
off the screen, or missing.  Its `int` arithmetic has no result where it
overflows.
-/

namespace K4W.Gui.Drawing

open K4W.Library
open K4W.Library.Binary
open K4W.Gui.Detections
open K4W.Gui.Floats
open K4W.Gui.Pose

/-! ## The painter -/

/-- `QColor` -/
structure Colour where
  red : Int32
  green : Int32
  blue : Int32
  alpha : Int32
deriving DecidableEq

/-- A call of the painter with the pen or the brush it is made with. -/
inductive Call where
  | drawRect (pen : Colour) (box : Rect)
  | drawLine (pen : Colour) (x1 y1 x2 y2 : Int32)
  | drawEllipse (brush : Colour) (box : Rect)
  | drawText (pen : Colour) (x y : Int32) (percent : Single)

/-- `Skeleton`, wherever it came from. -/
structure Figure where
  keypoints : List Keypoint
  bbox : Rect
  confidence : Single

/-! ## `drawSkeleton` -/

/-- `MP_CONNECTIONS` -/
def mpConnections : List (Nat × Nat) :=
  [(0, 1), (1, 2), (2, 3), (3, 7),
    (0, 4), (4, 5), (5, 6), (6, 8),
    (9, 10),
    (11, 12), (11, 13), (13, 15),
    (12, 14), (14, 16),
    (11, 23), (12, 24), (23, 24),
    (23, 25), (25, 27), (27, 29), (27, 31),
    (24, 26), (26, 28), (28, 30), (28, 32),
    (15, 17), (15, 19), (15, 21),
    (16, 18), (16, 20), (16, 22),
    (29, 31), (30, 32)]

/-- `NUM_CONNECTIONS` -/
def numConnections : Nat := 31

/-- The last two connections of the table are not drawn. -/
example : mpConnections.drop numConnections = [(29, 31), (30, 32)] := rfl

/-- Below `0.4f`; a NaN is not. -/
def isFaint (confidence : Single) : Bool :=
  confidence.lt (.round binary32 (2 / 5))

def onScreen (width height : Int32) (kp : Keypoint) : Bool :=
  decide (0 ≤ kp.x) && decide (kp.x < width) && (decide (0 ≤ kp.y) && decide (kp.y < height))

/-- `r` of a connection, given `avg`. -/
def lineRed (avg : Single) : Int32 :=
  if avg.lt (.round binary32 (3 / 5)) then 255
  else CInt.castToInt ((Number.ofInt binary32 255).mul ((Number.ofInt binary32 1).sub avg)).truncate?

/-- `g` of a connection, given `avg`. -/
def lineGreen (avg : Single) : Int32 :=
  let limit : Single := .round binary32 (3 / 5)
  if avg.lt limit then
    CInt.castToInt (((Number.ofInt binary32 200).mul avg).div limit).truncate?
  else 200

def lineColour (pa pb : Keypoint) : Colour :=
  let avg := (pa.confidence.add pb.confidence).mul (.round binary32 (1 / 2))
  { red := lineRed avg, green := lineGreen avg, blue := 0, alpha := 220 }

/-- The body of the loop over the connections. -/
def drawConnection (width height : Int32) (keypoints : List Keypoint) (connection : Nat × Nat) :
    Option Call :=
  match keypoints[connection.1]?, keypoints[connection.2]? with
  | some pa, some pb =>
      if isFaint pa.confidence || isFaint pb.confidence then none
      else if !onScreen width height pa || !onScreen width height pb then none
      else some (.drawLine (lineColour pa pb) pa.x pa.y pb.x pb.y)
  | none, _ => none
  | some _, none => none

/-- An ellipse around a point, as wide as high. -/
def drawCircle (brush : Colour) (x y rad : Int32) : Option Call := do
  let left ← CInt.checked (x.toInt - rad.toInt)
  let top ← CInt.checked (y.toInt - rad.toInt)
  let side ← CInt.checked (rad.toInt * 2)
  return .drawEllipse brush ⟨left, top, side, side⟩

/-- `rad` of a keypoint. -/
def radius (confidence : Single) : Option Int32 :=
  CInt.checked
    ((CInt.castToInt (confidence.mul (.ofInt binary32 4)).truncate?).toInt + 2)

/-- The body of the loop over the keypoints. -/
def drawKeypoint (width height : Int32) (kp : Keypoint) : Option (List Call) :=
  if isFaint kp.confidence then some []
  else if !onScreen width height kp then some []
  else do
    let rad ← radius kp.confidence
    let outer ← drawCircle ⟨255, 120, 0, 200⟩ kp.x kp.y rad
    let inner ← drawCircle ⟨255, 220, 50, 255⟩ kp.x kp.y 2
    return [outer, inner]

/-- The body of the loop over the skeletons. -/
def drawFigure (width height : Int32) (sk : Figure) : Option (List Call) :=
  if isFaint sk.confidence then some []
  else do
    let lines := (mpConnections.take numConnections).filterMap
      (drawConnection width height sk.keypoints)
    let circles ← sk.keypoints.mapM (drawKeypoint width height)
    let above ← CInt.checked (sk.bbox.y.toInt - 5)
    return .drawRect ⟨0, 255, 0, 100⟩ sk.bbox :: lines ++ circles.flatten ++
      [.drawText ⟨0, 255, 0, 255⟩ sk.bbox.x above (sk.confidence.mul (.ofInt binary32 100))]

def drawSkeleton (width height : Int32) (skeletons : List Figure) : Option (List Call) := do
  let drawings ← skeletons.mapM (drawFigure width height)
  return drawings.flatten

/-! ## Where the skeletons come from -/

/-- A keypoint of a segment, with the number that its bits are the code of. -/
def ofPoint (point : Skeletons.SkeletonPoint) : Keypoint where
  x := point.x
  y := point.y
  confidence := .ofCode binary32 point.confidence.toNat

/-- A skeleton that `updateFromSHM` reads. -/
def ofSegment (skeleton : Skeletons.Skeleton) : Figure where
  keypoints := skeleton.keypoints.map ofPoint
  bbox := ⟨skeleton.bboxX, skeleton.bboxY, skeleton.bboxW, skeleton.bboxH⟩
  confidence := .ofCode binary32 skeleton.confidence.toNat

/-- The channels of the colour are bytes; other colours are invalid. -/
structure Colour.Legal (colour : Colour) : Prop where
  red : 0 ≤ colour.red.toInt ∧ colour.red.toInt ≤ 255
  green : 0 ≤ colour.green.toInt ∧ colour.green.toInt ≤ 255
  blue : 0 ≤ colour.blue.toInt ∧ colour.blue.toInt ≤ 255
  alpha : 0 ≤ colour.alpha.toInt ∧ colour.alpha.toInt ≤ 255

theorem represents_five_eighths : binary32.Represents (5 / 8) := by
  refine ⟨?_, 5, -3, by decide, by decide, by norm_num⟩
  rw [abs_of_pos (by norm_num)]
  exact lt_of_lt_of_le (by norm_num : (5 / 8 : Rat) < 1) (one_le_zpow₀ (by norm_num) (by decide))

section Colours

variable {avg : Single} (haverage : avg.Within 0 1)

include haverage

theorem lineRed_legal : 0 ≤ (lineRed avg).toInt ∧ (lineRed avg).toInt ≤ 255 := by
  unfold lineRed
  split
  case isTrue => decide
  case isFalse =>
      have hone : (Number.ofInt binary32 1).Within 1 1 := by
        exact_mod_cast @within_nat 1 (by decide)
      have hrest := hone.sub haverage represents_zero (by rw [sub_self]; exact represents_zero)
        (by rw [sub_zero]; exact represents_one)
      rw [sub_self, sub_zero] at hrest
      have hred := (@within_factor 255 (by decide)).mul hrest represents_zero
        (by rw [mul_one]; exact represents_nat (by decide))
      rw [mul_one] at hred
      exact castToInt_within (by exact_mod_cast hred) (by decide)

theorem lineGreen_legal : 0 ≤ (lineGreen avg).toInt ∧ (lineGreen avg).toInt ≤ 255 := by
  have hlimit : (Number.round binary32 (3 / 5)).Within (1 / 2) (5 / 8) :=
    Number.within_round represents_half represents_five_eighths (by norm_num) (by norm_num)
  unfold lineGreen
  dsimp only
  split
  case isTrue hlt =>
      -- Below the limit, `200 * avg` is at most 125, and the limit is at least one half.
      have hscaled := (@within_factor 200 (by decide)).mul (haverage.of_lt hlimit hlt)
        represents_zero (by norm_num; exact_mod_cast @represents_nat 125 (by decide))
      have hgreen := @Number.Within.div _ _ _ _ _ _ ((250 : Nat) : Rat) hscaled hlimit
        (by norm_num) (by norm_num) represents_zero (represents_nat (by decide))
      have hbounds := @castToInt_within _ 250 (by exact_mod_cast hgreen) (by decide)
      exact ⟨hbounds.1, hbounds.2.trans (by decide)⟩
  case isFalse => decide

end Colours

theorem lineColour_legal {pa pb : Keypoint} (hpa : pa.confidence.Within 0 1)
    (hpb : pb.confidence.Within 0 1) : (lineColour pa pb).Legal := by
  have hsum := hpa.add hpb represents_zero (by rw [add_zero]; exact represents_zero)
    (by exact_mod_cast @represents_nat 2 (by decide))
  rw [add_zero] at hsum
  have hhalf : (Number.round binary32 (1 / 2)).Within 0 (1 / 2) :=
    Number.within_round represents_zero represents_half (by norm_num) (le_refl _)
  have haverage := hsum.mul hhalf represents_zero (by norm_num; exact represents_one)
  have hone : ((1 + 1) * (1 / 2) : Rat) = 1 := by norm_num
  rw [hone] at haverage
  exact {
    red := lineRed_legal haverage
    green := lineGreen_legal haverage
    blue := (by decide : 0 ≤ (0 : Int32).toInt ∧ (0 : Int32).toInt ≤ 255)
    alpha := (by decide : 0 ≤ (220 : Int32).toInt ∧ (220 : Int32).toInt ≤ 255) }

/-- The radius of a keypoint is between 2 and 6. -/
theorem radius_range {confidence : Single} (hconfidence : confidence.Within 0 1) :
    ∃ rad, radius confidence = some rad ∧ 2 ≤ rad.toInt ∧ rad.toInt ≤ 6 := by
  have hscaled := hconfidence.mul (@within_factor 4 (by decide)) represents_zero
    (by rw [one_mul]; exact represents_nat (by decide))
  rw [one_mul] at hscaled
  have hcast := @castToInt_within _ 4 (by exact_mod_cast hscaled) (by decide)
  obtain ⟨rad, hrad, hvalue⟩ := @CInt.exists_checked
    ((CInt.castToInt (confidence.mul (.ofInt binary32 4)).truncate?).toInt + 2)
    (by omega) (by omega)
  exact ⟨rad, hrad, by omega, by omega⟩

/-! ## Legal calls -/

/-- A box whose edges are at most a margin off the screen. -/
structure NearScreen (width height : Int32) (margin : Int) (box : Rect) : Prop where
  left : -margin ≤ box.x.toInt
  right : box.x.toInt + box.width.toInt ≤ width.toInt + margin
  top : -margin ≤ box.y.toInt
  bottom : box.y.toInt + box.height.toInt ≤ height.toInt + margin

structure IsOnScreen (width height x y : Int32) : Prop where
  left : 0 ≤ x.toInt
  right : x.toInt < width.toInt
  top : 0 ≤ y.toInt
  bottom : y.toInt < height.toInt

theorem onScreen_iff {width height : Int32} {kp : Keypoint} :
    onScreen width height kp = true ↔ IsOnScreen width height kp.x kp.y := by
  simp only [onScreen, Bool.and_eq_true, decide_eq_true_iff, Int32.le_iff_toInt_le,
    Int32.lt_iff_toInt_lt]
  constructor
  · rintro ⟨⟨hleft, hright⟩, htop, hbottom⟩
    exact ⟨hleft, hright, htop, hbottom⟩
  · rintro ⟨hleft, hright, htop, hbottom⟩
    exact ⟨⟨hleft, hright⟩, htop, hbottom⟩

/-- What the painter may be asked for on an image of a size. -/
def Call.Legal (width height : Int32) : Call → Prop
  | .drawRect pen box =>
      pen.Legal ∧ box.across.Within width.toInt ∧ box.down.Within height.toInt
  | .drawLine pen x1 y1 x2 y2 =>
      pen.Legal ∧ IsOnScreen width height x1 y1 ∧ IsOnScreen width height x2 y2
  | .drawEllipse brush box =>
      brush.Legal ∧ box.width = box.height ∧ 4 ≤ box.width.toInt ∧ NearScreen width height 6 box
  | .drawText pen x y _ => pen.Legal ∧ 0 ≤ x.toInt ∧ -5 ≤ y.toInt

/-- The landmark is drawn: neither faint nor off the screen. -/
structure Visible (width height : Int32) (kp : Keypoint) : Prop where
  confident : isFaint kp.confidence = false
  screen : IsOnScreen width height kp.x kp.y

/-- The bright circle of a landmark is among the calls. -/
def Dotted (calls : List Call) (kp : Keypoint) : Prop :=
  ∃ box, .drawEllipse ⟨255, 220, 50, 255⟩ box ∈ calls ∧ box.x.toInt = kp.x.toInt - 2 ∧
    box.y.toInt = kp.y.toInt - 2 ∧ box.width.toInt = 4 ∧ box.height.toInt = 4

/-- A box around a landmark that is 2 to 6 pixels away from it. -/
def Around (kp : Keypoint) (box : Rect) : Prop :=
  ∃ rad : Int, 2 ≤ rad ∧ rad ≤ 6 ∧ box.x.toInt = kp.x.toInt - rad ∧
    box.y.toInt = kp.y.toInt - rad ∧ box.width.toInt = rad * 2 ∧ box.height.toInt = rad * 2

section Calls

variable {width height : Int32}

/-- A circle around a point of the screen. -/
theorem drawCircle_legal {x y rad : Int32} {brush : Colour} (hbrush : brush.Legal)
    (hscreen : IsOnScreen width height x y) (hlow : 2 ≤ rad.toInt) (hhigh : rad.toInt ≤ 6) :
    ∃ box, drawCircle brush x y rad = some (.drawEllipse brush box) ∧
      (Call.drawEllipse brush box).Legal width height ∧ box.x.toInt = x.toInt - rad.toInt ∧
        box.y.toInt = y.toInt - rad.toInt ∧ box.width.toInt = rad.toInt * 2 ∧
          box.height.toInt = rad.toInt * 2 := by
  obtain ⟨hleft, hright, htop, hbottom⟩ := hscreen
  have hwidth := width.toInt_lt
  have hheight := height.toInt_lt
  obtain ⟨left, hx, hxValue⟩ := @CInt.exists_checked (x.toInt - rad.toInt) (by omega) (by omega)
  obtain ⟨top, hy, hyValue⟩ := @CInt.exists_checked (y.toInt - rad.toInt) (by omega) (by omega)
  obtain ⟨side, hside, hsideValue⟩ := @CInt.exists_checked (rad.toInt * 2) (by omega) (by omega)
  refine ⟨⟨left, top, side, side⟩, ?_, ⟨hbrush, rfl, ?_, ?_⟩, hxValue, hyValue, hsideValue,
    hsideValue⟩
  · simp [drawCircle, hx, hy, hside]
  · dsimp only
    omega
  · constructor <;> dsimp only <;> omega

theorem visible_iff {kp : Keypoint} :
    Visible width height kp ↔ isFaint kp.confidence = false ∧ onScreen width height kp = true := by
  rw [onScreen_iff]
  exact ⟨fun hvisible => ⟨hvisible.confident, hvisible.screen⟩, fun h => ⟨h.1, h.2⟩⟩

theorem drawKeypoint_of_not_visible {kp : Keypoint} (hnot : ¬Visible width height kp) :
    drawKeypoint width height kp = some [] := by
  rw [visible_iff] at hnot
  unfold drawKeypoint
  cases hfaint : isFaint kp.confidence with
  | true => rfl
  | false =>
      have hoff : onScreen width height kp = false := by simpa [hfaint] using hnot
      rw [hoff]
      rfl

/-- The drawing of one keypoint. -/
structure Circles (width height : Int32) (kp : Keypoint) (calls : List Call) : Prop where
  legal : ∀ call ∈ calls, call.Legal width height
  circles : ∀ call ∈ calls, Visible width height kp ∧
    ∃ brush box, call = .drawEllipse brush box ∧ Around kp box
  dotted : Visible width height kp → Dotted calls kp

/-- A visible keypoint has two circles. -/
theorem drawKeypoint_of_visible {kp : Keypoint} (hconfidence : kp.confidence.Within 0 1)
    (hvisible : Visible width height kp) :
    ∃ calls, drawKeypoint width height kp = some calls ∧ Circles width height kp calls := by
  obtain ⟨rad, hrad, hlow, hhigh⟩ := radius_range hconfidence
  have hscreen := hvisible.screen
  have hbrush : Colour.Legal ⟨255, 120, 0, 200⟩ := ⟨by decide, by decide, by decide, by decide⟩
  have hbright : Colour.Legal ⟨255, 220, 50, 255⟩ := ⟨by decide, by decide, by decide, by decide⟩
  obtain ⟨outer, houter, houterLegal, houterPlace⟩ := drawCircle_legal hbrush hscreen hlow hhigh
  obtain ⟨inner, hinner, hinnerLegal, hplace⟩ := @drawCircle_legal width height kp.x kp.y 2 _
    hbright hscreen (by decide) (by decide)
  obtain ⟨hconfident, hon⟩ := visible_iff.mp hvisible
  refine ⟨[.drawEllipse ⟨255, 120, 0, 200⟩ outer, .drawEllipse ⟨255, 220, 50, 255⟩ inner],
    ?_, ?_, ?_, fun _ => ⟨inner, List.mem_cons_of_mem _ List.mem_cons_self, hplace⟩⟩
  · simp [drawKeypoint, hconfident, hon, hrad, houter, hinner]
  · exact List.forall_mem_cons.mpr ⟨houterLegal, List.forall_mem_singleton.mpr hinnerLegal⟩
  · exact List.forall_mem_cons.mpr ⟨⟨hvisible, _, _, rfl, rad.toInt, hlow, hhigh, houterPlace⟩,
      List.forall_mem_singleton.mpr ⟨hvisible, _, _, rfl, 2, le_refl _, by decide, hplace⟩⟩

/-- A keypoint is drawn with legal circles; a visible one is dotted. -/
theorem drawKeypoint_circles {kp : Keypoint} (hconfidence : kp.confidence.Within 0 1) :
    ∃ calls, drawKeypoint width height kp = some calls ∧ Circles width height kp calls := by
  by_cases hvisible : Visible width height kp
  · exact drawKeypoint_of_visible hconfidence hvisible
  · exact ⟨[], drawKeypoint_of_not_visible hvisible, List.forall_mem_nil _,
      List.forall_mem_nil _, fun h => (hvisible h).elim⟩

/-- The lines join visible landmarks, and all that are connected. -/
theorem drawConnection_eq_some {keypoints : List Keypoint} {connection : Nat × Nat} {call : Call} :
    drawConnection width height keypoints connection = some call ↔
      ∃ pa pb, keypoints[connection.1]? = some pa ∧ keypoints[connection.2]? = some pb ∧
        Visible width height pa ∧ Visible width height pb ∧
          .drawLine (lineColour pa pb) pa.x pa.y pb.x pb.y = call := by
  unfold drawConnection
  split
  case h_1 pa pb ha hb =>
      simp only [ha, hb, visible_iff, Option.some.injEq, exists_and_left, exists_eq_left']
      cases isFaint pa.confidence <;> cases isFaint pb.confidence <;>
        cases onScreen width height pa <;> cases onScreen width height pb <;> simp
  case h_2 hnone => simp [hnone]
  case h_3 pa ha hnone => simp [hnone]

end Calls

/-! ## A whole drawing -/

/-- A skeleton whose colours, radii, and places can be computed. -/
structure Figure.Sound (width height : Int32) (sk : Figure) : Prop where
  confidences : ∀ kp ∈ sk.keypoints, kp.confidence.Within 0 1
  across : sk.bbox.across.Within width.toInt
  down : sk.bbox.down.Within height.toInt

/-- A line of the drawing: between two landmarks of a connection that the loop reaches. -/
structure Joins (keypoints : List Keypoint) (pa pb : Keypoint) : Prop where
  connected : ∃ connection ∈ mpConnections.take numConnections,
    keypoints[connection.1]? = some pa ∧ keypoints[connection.2]? = some pb

/-- The drawing of a skeleton that is not faint. -/
structure Draws (width height : Int32) (sk : Figure) (calls : List Call) : Prop where
  legal : ∀ call ∈ calls, call.Legal width height
  faint : isFaint sk.confidence = true → calls = []
  dots : isFaint sk.confidence = false → ∀ kp ∈ sk.keypoints, Visible width height kp →
    Dotted calls kp
  lines : isFaint sk.confidence = false → ∀ pa pb, Joins sk.keypoints pa pb →
    Visible width height pa → Visible width height pb →
      .drawLine (lineColour pa pb) pa.x pa.y pb.x pb.y ∈ calls
  ends : ∀ pen x1 y1 x2 y2, .drawLine pen x1 y1 x2 y2 ∈ calls →
    ∃ pa pb, Joins sk.keypoints pa pb ∧ Visible width height pa ∧ Visible width height pb ∧
      Dotted calls pa ∧ Dotted calls pb ∧
      pa.x = x1 ∧ pa.y = y1 ∧ pb.x = x2 ∧ pb.y = y2 ∧ pen = lineColour pa pb
  circles : ∀ brush box, .drawEllipse brush box ∈ calls →
    ∃ kp ∈ sk.keypoints, Visible width height kp ∧ Around kp box

section Figures

variable {width height : Int32} {sk : Figure}

theorem mem_lines {call : Call} :
    call ∈ (mpConnections.take numConnections).filterMap
        (drawConnection width height sk.keypoints) ↔
      ∃ pa pb, Joins sk.keypoints pa pb ∧ Visible width height pa ∧ Visible width height pb ∧
        .drawLine (lineColour pa pb) pa.x pa.y pb.x pb.y = call := by
  simp only [List.mem_filterMap, drawConnection_eq_some]
  constructor
  · rintro ⟨connection, hmem, pa, pb, ha, hb, hvisible⟩
    exact ⟨pa, pb, ⟨connection, hmem, ha, hb⟩, hvisible⟩
  · rintro ⟨pa, pb, ⟨connection, hmem, ha, hb⟩, hvisible⟩
    exact ⟨connection, hmem, pa, pb, ha, hb, hvisible⟩

theorem Joins.mem {keypoints : List Keypoint} {pa pb : Keypoint} (hjoins : Joins keypoints pa pb) :
    pa ∈ keypoints ∧ pb ∈ keypoints := by
  obtain ⟨connection, -, ha, hb⟩ := hjoins
  exact ⟨List.mem_of_getElem? ha, List.mem_of_getElem? hb⟩

theorem Dotted.mono {calls more : List Call} {kp : Keypoint} (hdotted : Dotted calls kp)
    (hsub : calls ⊆ more) : Dotted more kp := by
  obtain ⟨box, hmem, hplace⟩ := hdotted
  exact ⟨box, hsub hmem, hplace⟩

/-- The circles of all keypoints. -/
theorem exists_circles (hconfidences : ∀ kp ∈ sk.keypoints, kp.confidence.Within 0 1) :
    ∃ circles, sk.keypoints.mapM (drawKeypoint width height) = some circles ∧
      (∀ call ∈ circles.flatten, call.Legal width height ∧
        ∃ kp ∈ sk.keypoints, Visible width height kp ∧
          ∃ brush box, call = .drawEllipse brush box ∧ Around kp box) ∧
      ∀ kp ∈ sk.keypoints, Visible width height kp → Dotted circles.flatten kp := by
  obtain ⟨circles, hcircles, hall⟩ := mapM_forall₂ fun kp hmem =>
    @drawKeypoint_circles width height kp (hconfidences kp hmem)
  refine ⟨circles, hcircles, fun call hmem => ?_, fun kp hmem hvisible => ?_⟩
  · obtain ⟨calls, hcalls, hcall⟩ := List.mem_flatten.mp hmem
    obtain ⟨kp, hkp, hdrawn⟩ := exists_mem_left hall calls hcalls
    exact ⟨hdrawn.legal call hcall, kp, hkp, hdrawn.circles call hcall⟩
  · obtain ⟨calls, hcalls, hdrawn⟩ := exists_mem_right hall kp hmem
    exact (hdrawn.dotted hvisible).mono (List.sublist_flatten_of_mem hcalls).subset

/-- Every call of a drawing is the box, a line, a circle, or the label. -/
theorem mem_drawing {box label call : Call} {lines circles : List Call} :
    call ∈ box :: lines ++ circles ++ [label] ↔
      call = box ∨ call ∈ lines ∨ call ∈ circles ∨ call = label := by
  simp only [List.mem_append, List.mem_cons, List.not_mem_nil, or_false, or_assoc]

/-- The calls for a skeleton that is not faint, given its circles and the place of its label. -/
def drawing (width height : Int32) (sk : Figure) (circles : List Call) (above : Int32) :
    List Call :=
  .drawRect ⟨0, 255, 0, 100⟩ sk.bbox ::
    (mpConnections.take numConnections).filterMap (drawConnection width height sk.keypoints) ++
      circles ++
      [.drawText ⟨0, 255, 0, 255⟩ sk.bbox.x above (sk.confidence.mul (.ofInt binary32 100))]

theorem drawing_legal (hsound : sk.Sound width height) {circles : List Call} {above : Int32}
    (hround : ∀ call ∈ circles, call.Legal width height)
    (habove : above.toInt = sk.bbox.y.toInt - 5) :
    ∀ call ∈ drawing width height sk circles above, call.Legal width height := by
  have hx : 0 ≤ sk.bbox.x.toInt := hsound.across.1
  have hy : 0 ≤ sk.bbox.y.toInt := hsound.down.1
  have hboxPen : Colour.Legal ⟨0, 255, 0, 100⟩ := ⟨by decide, by decide, by decide, by decide⟩
  have hlabelPen : Colour.Legal ⟨0, 255, 0, 255⟩ := ⟨by decide, by decide, by decide, by decide⟩
  intro call hmem
  rcases mem_drawing.mp hmem with rfl | hline | hcircle | rfl
  · exact ⟨hboxPen, hsound.across, hsound.down⟩
  · obtain ⟨pa, pb, hjoins, hpa, hpb, rfl⟩ := mem_lines.mp hline
    obtain ⟨hamem, hbmem⟩ := hjoins.mem
    exact ⟨lineColour_legal (hsound.confidences pa hamem) (hsound.confidences pb hbmem),
      hpa.screen, hpb.screen⟩
  · exact hround call hcircle
  · exact ⟨hlabelPen, hx, by omega⟩

/-- A sound skeleton that is not faint is drawn, and its drawing is complete. -/
theorem drawFigure_of_confident (hsound : sk.Sound width height)
    (hconfident : isFaint sk.confidence = false) :
    ∃ calls, drawFigure width height sk = some calls ∧ Draws width height sk calls := by
  obtain ⟨circles, hcircles, hround, hdots⟩ := @exists_circles width height sk hsound.confidences
  have hy : 0 ≤ sk.bbox.y.toInt := hsound.down.1
  have hyHigh := sk.bbox.y.toInt_lt
  obtain ⟨above, habove, haboveValue⟩ := @CInt.exists_checked (sk.bbox.y.toInt - 5)
    (by omega) (by omega)
  have hsub : circles.flatten ⊆ drawing width height sk circles.flatten above := fun call hcall =>
    mem_drawing.mpr (.inr (.inr (.inl hcall)))
  refine ⟨drawing width height sk circles.flatten above, ?_,
    drawing_legal hsound (fun call hcall => (hround call hcall).1) haboveValue,
    fun hfaint => ?_, fun _ kp hmem hvisible => (hdots kp hmem hvisible).mono hsub,
    fun _ pa pb hjoins hpa hpb => ?_, fun pen x1 y1 x2 y2 hmem => ?_, fun brush box hmem => ?_⟩
  · rw [drawFigure, hconfident, hcircles, habove]
    rfl
  · rw [hconfident] at hfaint
    cases hfaint
  · exact mem_drawing.mpr (.inr (.inl (mem_lines.mpr ⟨pa, pb, hjoins, hpa, hpb, rfl⟩)))
  · rcases mem_drawing.mp hmem with hbox | hline | hcircle | hlabel
    · cases hbox
    · obtain ⟨pa, pb, hjoins, hpa, hpb, hcall⟩ := mem_lines.mp hline
      obtain ⟨hamem, hbmem⟩ := hjoins.mem
      cases hcall
      exact ⟨pa, pb, hjoins, hpa, hpb, (hdots pa hamem hpa).mono hsub,
        (hdots pb hbmem hpb).mono hsub, rfl, rfl, rfl, rfl, rfl⟩
    · obtain ⟨kp, -, -, brush, box, hellipse, -⟩ := (hround _ hcircle).2
      cases hellipse
    · cases hlabel
  · rcases mem_drawing.mp hmem with hbox | hline | hcircle | hlabel
    · cases hbox
    · obtain ⟨pa, pb, -, -, -, hcall⟩ := mem_lines.mp hline
      cases hcall
    · obtain ⟨kp, hkp, hvisible, _, _, hellipse, haround⟩ := (hround _ hcircle).2
      cases hellipse
      exact ⟨kp, hkp, hvisible, haround⟩
    · cases hlabel

/-- A sound skeleton is drawn, and its drawing is complete. -/
theorem drawFigure_draws (hsound : sk.Sound width height) :
    ∃ calls, drawFigure width height sk = some calls ∧ Draws width height sk calls := by
  cases hconfident : isFaint sk.confidence with
  | false => exact drawFigure_of_confident hsound hconfident
  | true =>
      refine ⟨[], ?_, List.forall_mem_nil _, fun _ => rfl, fun hnot => ?_, fun hnot => ?_, ?_, ?_⟩
      · rw [drawFigure, hconfident]
        rfl
      · rw [hconfident] at hnot
        cases hnot
      · rw [hconfident] at hnot
        cases hnot
      · intro pen x1 y1 x2 y2 hmem
        cases hmem
      · intro brush box hmem
        cases hmem

/-- Sound skeletons are drawn one after the other. -/
theorem drawSkeleton_draws {skeletons : List Figure}
    (hsound : ∀ sk ∈ skeletons, sk.Sound width height) :
    ∃ drawings, drawSkeleton width height skeletons = some drawings.flatten ∧
      List.Forall₂ (Draws width height) skeletons drawings := by
  obtain ⟨drawings, hdrawings, hall⟩ := mapM_forall₂ fun sk hmem =>
    drawFigure_draws (hsound sk hmem)
  refine ⟨drawings, ?_, hall⟩
  rw [drawSkeleton, hdrawings]
  rfl

end Figures

/-! ## The skeletons of the pipeline -/

def Call.line? : Call → Option (Int32 × Int32 × Int32 × Int32)
  | .drawLine _ x1 y1 x2 y2 => some (x1, y1, x2, y2)
  | .drawRect _ _ | .drawEllipse _ _ | .drawText _ _ _ _ => none

/-- The refreshes of the overlay: each updates the skeletons from a segment, and draws them. -/
def overlay (width height : Int32) :
    Loop (List Skeletons.Skeleton) (Option Shm.MappedBytes) (Option (List Call)) where
  initial := []
  step := fun skeletons segment =>
    let updated := Skeletons.updateFromSHM true segment skeletons
    (updated, drawSkeleton width height (updated.map ofSegment))

/-- The segment has the magic number, and counts skeletons. -/
def counts (segment : Shm.MappedBytes) : Bool :=
  segment.word 0 == Shm.k4wShmMagic && decide (0 < (Shm.skeletonCount segment).toInt)

/-- The last segment that counted skeletons, however many others came later. -/
def lastCounting (segments : List (Option Shm.MappedBytes)) : Option Shm.MappedBytes :=
  (segments.filterMap (Option.filter counts)).getLast?

/-- The skeletons of the last segment that counted some. -/
def lastSnapshot (segments : List (Option Shm.MappedBytes)) : List Skeletons.Skeleton :=
  match lastCounting segments with
  | none => []
  | some segment => Skeletons.snapshot segment

theorem updateFromSHM_of_counts {segment : Shm.MappedBytes} (previous : List Skeletons.Skeleton) :
    Skeletons.updateFromSHM true (some segment) previous =
      if counts segment then Skeletons.snapshot segment else previous := by
  by_cases hmagic : segment.word 0 = Shm.k4wShmMagic
  · rw [Skeletons.updateFromSHM_eq hmagic]
    simp [counts, hmagic]
  · simp [counts, hmagic, Skeletons.updateFromSHM]

theorem lastSnapshot_append (past : List (Option Shm.MappedBytes))
    (segment : Option Shm.MappedBytes) :
    lastSnapshot (past ++ [segment]) =
      Skeletons.updateFromSHM true segment (lastSnapshot past) := by
  cases segment with
  | none => simp [lastSnapshot, lastCounting, Skeletons.updateFromSHM]
  | some segment =>
      rw [updateFromSHM_of_counts]
      cases hcounts : counts segment with
      | false => simp [lastSnapshot, lastCounting, Option.filter, hcounts]
      | true => simp [lastSnapshot, lastCounting, Option.filter, hcounts]

/-- The skeletons of the tracker are those of the last segment that counted some. -/
theorem overlay_state (width height : Int32) (segments : List (Option Shm.MappedBytes)) :
    (overlay width height).state segments = lastSnapshot segments := by
  refine @Loop.state_of_past _ _ _ (overlay width height)
    (fun past skeletons => skeletons = lastSnapshot past) rfl ?_ segments
  intro past skeletons segment hskeletons
  rw [lastSnapshot_append, ← hskeletons]
  rfl

/--
In every run of refreshes, whatever the segments hold, the overlay draws the
skeletons of the last segment that counted some; where these are sound for the
frame, the drawings are legal and complete.
-/
theorem overlay_draws (width height : Int32) (past : List (Option Shm.MappedBytes))
    (segment : Option Shm.MappedBytes) :
    (overlay width height).output ((overlay width height).state past) segment =
        drawSkeleton width height ((lastSnapshot (past ++ [segment])).map ofSegment) ∧
      ((∀ sk ∈ (lastSnapshot (past ++ [segment])).map ofSegment, sk.Sound width height) →
        ∃ drawings,
          (overlay width height).output ((overlay width height).state past) segment =
            some drawings.flatten ∧
          List.Forall₂ (Draws width height)
            ((lastSnapshot (past ++ [segment])).map ofSegment) drawings) := by
  have houtput : (overlay width height).output ((overlay width height).state past) segment =
      drawSkeleton width height ((lastSnapshot (past ++ [segment])).map ofSegment) := by
    rw [lastSnapshot_append, overlay_state]
    rfl
  refine ⟨houtput, fun hsound => ?_⟩
  rw [houtput]
  exact drawSkeleton_draws hsound

/-- One person in an image of 64 by 48 pixels, with the two shoulders. -/
def personSegment : Shm.MappedBytes where
  size := 448
  bytes := fun i =>
    let word : Nat :=
      match i / 4 with
      | 0 => 0x4B345750
      | 3 => 1
      -- width, height, and confidence as floats
      | 10 => 0x42800000
      | 11 => 0x42400000
      | 12 => 0x3F000000
      -- the shoulders
      | 46 => 10
      | 47 => 12
      | 48 => 0x3F000000
      | 49 => 40
      | 50 => 30
      | 51 => 0x3F000000
      | _ => 0
    UInt8.ofNat (word / 256 ^ (i % 4))

/-- A test for `Figure.Sound`. -/
def Figure.isSound (width height : Int32) (sk : Figure) : Bool :=
  (sk.keypoints.all fun kp => kp.confidence.value?.any fun value => 0 ≤ value && value ≤ 1) &&
    decide (0 ≤ sk.bbox.x.toInt ∧ sk.bbox.x.toInt + sk.bbox.width.toInt ≤ width.toInt) &&
    decide (0 ≤ sk.bbox.y.toInt ∧ sk.bbox.y.toInt + sk.bbox.height.toInt ≤ height.toInt)

theorem Figure.sound_of_isSound {width height : Int32} {sk : Figure}
    (htest : sk.isSound width height = true) : sk.Sound width height := by
  simp only [Figure.isSound, Bool.and_eq_true, List.all_eq_true, Option.any_eq_true_iff_get,
    decide_eq_true_eq] at htest
  obtain ⟨⟨hconfidences, hacross⟩, hdown⟩ := htest
  refine ⟨fun kp hmem => ?_, hacross, hdown⟩
  obtain ⟨hsome, hlow, hhigh⟩ := hconfidences kp hmem
  exact ⟨_, Option.eq_some_of_isSome hsome, hlow, hhigh⟩

/-- The person is drawn on while segments are missing or count none. -/
theorem overlay_draws_person :
    ∃ drawings,
      (overlay 64 48).output ((overlay 64 48).state [some personSegment, none])
          (some (Skeletons.countingSegment 0)) = some drawings.flatten ∧
        List.Forall₂ (Draws 64 48)
          ((lastSnapshot ([some personSegment, none] ++ [some (Skeletons.countingSegment 0)])).map
            ofSegment) drawings ∧
        drawings.flatten.length = 7 ∧
        drawings.flatten.filterMap Call.line? = [(10, 12, 40, 30)] := by
  let past := [some personSegment, none]
  let segment := some (Skeletons.countingSegment 0)
  have hsound : ∀ sk ∈ (lastSnapshot (past ++ [segment])).map ofSegment, sk.Sound 64 48 := by
    have htest : ((lastSnapshot (past ++ [segment])).map ofSegment).all
        (Figure.isSound 64 48) = true := by
      decide +kernel
    exact fun sk hmem => Figure.sound_of_isSound (List.all_eq_true.mp htest sk hmem)
  obtain ⟨drawings, houtput, hall⟩ := (overlay_draws 64 48 past segment).2 hsound
  have hcalls : ((overlay 64 48).output ((overlay 64 48).state past) segment).map
      (fun calls => (calls.length, calls.filterMap Call.line?)) =
        some (7, [(10, 12, 40, 30)]) := by
    decide +kernel
  rw [houtput, Option.map_some, Option.some.injEq, Prod.mk.injEq] at hcalls
  exact ⟨drawings, houtput, hall, hcalls⟩

end K4W.Gui.Drawing
