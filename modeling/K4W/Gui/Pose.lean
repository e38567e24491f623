import K4W.Gui.Floats
import K4W.Library.Greatest

/-!
# Keypoints of a person

`SkeletonTracker::postprocessPose` looks for the greatest activation of every
landmark, refines it by an offset, and maps it to the crop.  Tensors are the
lists of their floats; an index that overflows `int`, or that leaves the tensor,
has no value.
-/

namespace K4W.Gui.Pose

open K4W.Library
open K4W.Library.Binary
open K4W.Gui.Detections
open K4W.Gui.Floats

/-- `NUM_LANDMARKS` -/
def numLandmarks : Nat := 33

/-- `SkeletonPoint` with the value of its `float`. -/
structure Keypoint where
  x : Int32
  y : Int32
  confidence : Single

/-- The sizes of the heatmap, and the crop that it stands for. -/
structure Geometry where
  hW : Nat
  hH : Nat
  cropW : Int32
  cropH : Int32
  ox : Int32
  oy : Int32

abbrev Best : Type := Greatest Single (Nat × Nat)

/-- `maxVal`, `maxX`, and `maxY` before the loops. -/
def startBest : Best where
  value := .ofInt binary32 (-1000000000)
  place := (0, 0)

/-- The cells of a heatmap, row after row, with the activations of a landmark. -/
def activations (geometry : Geometry) (heat : List Single) (k : Nat) : List Best :=
  (List.range geometry.hH).flatMap fun y => (List.range geometry.hW).map fun x =>
    ⟨(heat[k * geometry.hH * geometry.hW + y * geometry.hW + x]?).getD .nan, (x, y)⟩

/-- Tensors of the geometry, small enough for the indices. -/
structure Fits (geometry : Geometry) (heat ldmk : List Single) : Prop where
  width_pos : 0 < geometry.hW
  height_pos : 0 < geometry.hH
  heat : numLandmarks * (geometry.hH * geometry.hW) ≤ heat.length
  ldmk : 2 * numLandmarks * (geometry.hH * geometry.hW) ≤ ldmk.length
  int : 2 * numLandmarks * (geometry.hH * geometry.hW) ≤ 2 ^ 31

section Activations

variable {geometry : Geometry} {heat ldmk : List Single} {k : Nat}

end Activations

/-! ## The mapping to the crop -/

/-- The refined cell lies on the heatmap, as `float` arithmetic has it. -/
def OnMap (cell : Nat) (offset : Single) (size : Nat) : Prop :=
  ∃ refined extent, ((Number.ofInt binary32 cell).add offset).value? = some refined ∧
    (Number.ofInt binary32 size).value? = some extent ∧ 0 ≤ refined ∧ refined ≤ extent

/-- The cell with the first of the greatest activations of a landmark. -/
structure Finds (geometry : Geometry) (heat : List Single) (k : Nat) (best : Best) : Prop where
  column : best.place.1 < geometry.hW
  row : best.place.2 < geometry.hH
  greatest : (best = startBest ∧
      ∀ other ∈ activations geometry heat k, startBest.value.lt other.value = false) ∨
    Greatest.IsFirst Number.lt Number.rank? startBest (activations geometry heat k) best

/-- The keypoint of a landmark that was found in a cell. -/
structure Marks (geometry : Geometry) (ldmk : List Single) (k : Nat) (best : Best)
    (keypoint : Keypoint) : Prop where
  confidence : keypoint.confidence.Within 0 1
  x : ∀ offset, ldmk[k * 2 * geometry.hH * geometry.hW +
      (best.place.2 * geometry.hW + best.place.1)]? = some offset →
    OnMap best.place.1 offset geometry.hW →
    geometry.ox.toInt ≤ keypoint.x.toInt ∧
      keypoint.x.toInt ≤ geometry.ox.toInt + geometry.cropW.toInt
  y : ∀ offset, ldmk[(k * 2 + 1) * geometry.hH * geometry.hW +
      (best.place.2 * geometry.hW + best.place.1)]? = some offset →
    OnMap best.place.2 offset geometry.hH →
    geometry.oy.toInt ≤ keypoint.y.toInt ∧
      keypoint.y.toInt ≤ geometry.oy.toInt + geometry.cropH.toInt

section Keypoints

variable {exp : Single → Single} {geometry : Geometry} {heat ldmk : List Single} {k : Nat}

/-- Every landmark is at the first of its greatest activations. -/
def AllMarked (geometry : Geometry) (heat ldmk : List Single) (keypoints : List Keypoint) : Prop :=
  List.Forall₂ (fun k keypoint => ∃ best, Finds geometry heat k best ∧
    Marks geometry ldmk k best keypoint) (List.range numLandmarks) keypoints

end Keypoints

/-! ## The whole pipeline -/

/-- The two outputs of the pose network. -/
structure PoseOutputs where
  hW : Nat
  hH : Nat
  heat : List Single
  ldmk : List Single

def PoseOutputs.geometry (outputs : PoseOutputs) (crop : Rect) : Geometry where
  hW := outputs.hW
  hH := outputs.hH
  cropW := crop.width
  cropH := crop.height
  ox := crop.x
  oy := crop.y

/-- `Skeleton` with the crop it was estimated in. -/
structure Skeleton extends Tracked where
  keypoints : List Keypoint

/-- The pose network, for the pixels of a crop; it may have less than two outputs. -/
abbrev PoseNet : Type := Rect → Option PoseOutputs

/-- The tensors of the pose network have the sizes that they state. -/
def PoseNet.Fits (poseNet : PoseNet) : Prop :=
  ∀ crop outputs, poseNet crop = some outputs →
    Pose.Fits (outputs.geometry crop) outputs.heat outputs.ldmk

/-- A skeleton in an image: of a legal box, in a legal crop, with all its landmarks or none. -/
structure Skeleton.Legal (skeleton : Skeleton) (poseNet : PoseNet) (imgW imgH : Int32) : Prop where
  bbox : LegalBox imgW imgH skeleton.bbox
  crop : LegalCrop imgW imgH skeleton.bbox skeleton.crop
  keypoints : match poseNet skeleton.crop with
    | none => skeleton.keypoints = []
    | some outputs =>
        AllMarked (outputs.geometry skeleton.crop) outputs.heat outputs.ldmk skeleton.keypoints

section Pipeline

variable {exp : Single → Single} {poseNet : PoseNet} {imgW imgH : Int32}

end Pipeline

end K4W.Gui.Pose
