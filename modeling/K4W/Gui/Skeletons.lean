import K4W.Shm.ReaderBounds

/-!
# Skeleton snapshots

`SkeletonTracker::updateFromSHM` decodes the records of a `k4w_skeleton`
segment and replaces the skeletons that are drawn.  It returns before the
replacement when the segment counts no skeletons.
-/

namespace K4W.Gui.Skeletons

open K4W.Library
open K4W.Shm

/-! ## The decoder -/

/-- A keypoint; the bits of its `float` are not interpreted. -/
structure SkeletonPoint where
  x : Int32
  y : Int32
  confidence : UInt32
deriving DecidableEq

structure Skeleton where
  keypoints : List SkeletonPoint
  bboxX : Int32
  bboxY : Int32
  bboxW : Int32
  bboxH : Int32
  confidence : UInt32
deriving DecidableEq

/--
The cast of a `float` to `int`, by its bits.  Out of range, and for infinities
and NaNs, it is what the x86 instruction returns.
-/
def floatToInt (bits : UInt32) : Int32 :=
  let exponent := bits.toNat / 2 ^ 23 % 256
  let significand := 2 ^ 23 + bits.toNat % 2 ^ 23
  let magnitude : Nat :=
    if exponent = 0 then 0
    else if exponent ≤ 150 then significand / 2 ^ (150 - exponent)
    else significand * 2 ^ (exponent - 150)
  let value : Int := if 2 ^ 31 ≤ bits.toNat then -magnitude else magnitude
  if exponent < 255 ∧ -2 ^ 31 ≤ value ∧ value < 2 ^ 31 then Int32.ofInt value
  else Int32.minValue

/-- The keypoint that the loop over the landmarks reads. -/
def readKeypoint (segment : MappedBytes) (kps j : Nat) : SkeletonPoint where
  x := (segment.word (kps + j * 12)).toInt32
  y := (segment.word (kps + j * 12 + 4)).toInt32
  confidence := segment.word (kps + j * 12 + 8)

/-- The body of the loop over the skeletons, for the record at an offset. -/
def readSkeleton (segment : MappedBytes) (sk : Nat) : Skeleton where
  bboxX := floatToInt (segment.word sk)
  bboxY := floatToInt (segment.word (sk + 4))
  bboxW := floatToInt (segment.word (sk + 8))
  bboxH := floatToInt (segment.word (sk + 12))
  confidence := segment.word (sk + 16)
  keypoints := (List.range numLandmarks).foldl
    (fun keypoints j => keypoints ++ [readKeypoint segment (sk + 20) j]) []

/-- The loop over the skeletons, from an index on. -/
def readSkeletons (segment : MappedBytes) (count : Int32) (i : Nat) (skels : List Skeleton) :
    List Skeleton :=
  if Int32.ofNat i < count ∧ i < skeletonMaxPersons then
    readSkeletons segment count (i + 1)
      (skels ++ [readSkeleton segment (skeletonData + i * skeletonBytes)])
  else
    skels
termination_by skeletonMaxPersons - i

/-- `SkeletonTracker::updateFromSHM`: `m_skeletons` after it, given `m_skeletons` before. -/
def updateFromSHM (enabled : Bool) (segment : Option MappedBytes) (skeletons : List Skeleton) :
    List Skeleton :=
  if !enabled then
    skeletons
  else
    match segment with
    | none => skeletons
    | some segment =>
        if segment.word 0 ≠ k4wShmMagic then
          skeletons
        else if skeletonCount segment ≤ 0 then
          skeletons
        else
          readSkeletons segment (skeletonCount segment) 0 []

/-! ## The contents of a snapshot -/

/-- The record number `i` of a segment. -/
def record (segment : MappedBytes) (i : Nat) : Skeleton :=
  let offset := 32 + 416 * i
  { bboxX := floatToInt (segment.word offset)
    bboxY := floatToInt (segment.word (offset + 4))
    bboxW := floatToInt (segment.word (offset + 8))
    bboxH := floatToInt (segment.word (offset + 12))
    confidence := segment.word (offset + 16)
    keypoints := (List.range 33).map fun j =>
      { x := (segment.word (offset + 20 + 12 * j)).toInt32
        y := (segment.word (offset + 20 + 12 * j + 4)).toInt32
        confidence := segment.word (offset + 20 + 12 * j + 8) } }

/-- How many records of a segment a snapshot takes. -/
def snapshotSize (segment : MappedBytes) : Nat :=
  min (max (skeletonCount segment).toInt 0).toNat skeletonMaxPersons

/-- The skeletons of a segment: its first records, as many as it counts and as are drawn. -/
def snapshot (segment : MappedBytes) : List Skeleton :=
  (List.range (snapshotSize segment)).map (record segment)

/-- The magic number is right, and the records of the snapshot lie inside the mapping. -/
structure WellFormed (segment : MappedBytes) : Prop where
  magic : segment.word 0 = k4wShmMagic
  records : skeletonData + snapshotSize segment * skeletonBytes ≤ segment.size

/-! ## The decoder reads the snapshot -/

/-- The loop over the landmarks makes the record of the index. -/
theorem readSkeleton_eq (segment : MappedBytes) (i : Nat) :
    readSkeleton segment (skeletonData + i * skeletonBytes) = record segment i := by
  have hoffset : skeletonData + i * skeletonBytes = 32 + 416 * i := by
    rw [Nat.mul_comm]
    rfl
  have hkeypoint : readKeypoint segment (32 + 416 * i + 20) = fun j =>
      { x := (segment.word (32 + 416 * i + 20 + 12 * j)).toInt32
        y := (segment.word (32 + 416 * i + 20 + 12 * j + 4)).toInt32
        confidence := segment.word (32 + 416 * i + 20 + 12 * j + 8) } := by
    funext j
    rw [readKeypoint, Nat.mul_comm j 12]
  rw [readSkeleton, hoffset, List.foldl_append_eq_append, List.nil_append, ← List.flatMap_def,
    ← List.map_eq_flatMap, hkeypoint]
  rfl

theorem ofNat_lt_iff {count : Int32} {i : Nat} (hi : i ≤ skeletonMaxPersons) :
    Int32.ofNat i < count ↔ (i : Int) < count.toInt := by
  have hfit : i < 2 ^ 31 := Nat.lt_of_le_of_lt hi (by decide)
  rw [Int32.lt_iff_toInt_lt, CInt.toInt_ofNat_eq hfit]

/-- The loop over the skeletons appends the records that remain. -/
theorem readSkeletons_eq (segment : MappedBytes) (count : Int32) (remaining : Nat) :
    ∀ (i : Nat) (skels : List Skeleton),
      i + remaining = min count.toInt.toNat skeletonMaxPersons →
      readSkeletons segment count i skels =
        skels ++ (List.range' i remaining).map (record segment) := by
  induction remaining with
  | zero =>
      intro i skels hend
      have hstop : ¬(Int32.ofNat i < count ∧ i < skeletonMaxPersons) := by
        rintro ⟨hlt, hmax⟩
        rw [ofNat_lt_iff (Nat.le_of_lt hmax)] at hlt
        omega
      rw [readSkeletons, if_neg hstop]
      simp
  | succ remaining ih =>
      intro i skels hend
      have hmax : i < skeletonMaxPersons := by omega
      have hnext : Int32.ofNat i < count := by
        rw [ofNat_lt_iff (Nat.le_of_lt hmax)]
        omega
      rw [readSkeletons, if_pos ⟨hnext, hmax⟩, ih (i + 1) _ (by omega), readSkeleton_eq,
        List.range'_succ, List.map_cons, List.append_assoc, List.singleton_append]

theorem readSkeletons_snapshot {segment : MappedBytes} (hcount : 0 < (skeletonCount segment).toInt) :
    readSkeletons segment (skeletonCount segment) 0 [] = snapshot segment := by
  have hsize : 0 + snapshotSize segment =
      min (skeletonCount segment).toInt.toNat skeletonMaxPersons := by
    rw [snapshotSize, max_eq_left (Int.le_of_lt hcount), Nat.zero_add]
  rw [readSkeletons_eq segment _ _ 0 [] hsize, List.nil_append, snapshot,
    List.range_eq_range']

theorem snapshot_eq_nil {segment : MappedBytes} (hcount : (skeletonCount segment).toInt ≤ 0) :
    snapshot segment = [] := by
  rw [snapshot, snapshotSize, max_eq_right hcount]
  simp

/-- An update with the right magic number replaces the skeletons, or leaves them alone. -/
theorem updateFromSHM_eq {segment : MappedBytes} (hmagic : segment.word 0 = k4wShmMagic)
    (previous : List Skeleton) :
    updateFromSHM true (some segment) previous =
      if 0 < (skeletonCount segment).toInt then snapshot segment else previous := by
  have hle : skeletonCount segment ≤ 0 ↔ ¬0 < (skeletonCount segment).toInt := by
    rw [Int32.le_iff_toInt_le, Int.not_lt]
    rfl
  by_cases hcount : 0 < (skeletonCount segment).toInt
  · simp [updateFromSHM, hmagic, hle, hcount, readSkeletons_snapshot hcount]
  · simp [updateFromSHM, hmagic, hle, hcount]

/--
An update stays inside a well-formed segment, and leaves exactly the skeletons
of the snapshot when the segment counts some or when there were none before.
-/
theorem updateFromSHM_snapshot_iff (segment : MappedBytes) (previous : List Skeleton)
    (hwell : WellFormed segment) :
    Span.AllInside segment.size (updateReads true segment) ∧
      (updateFromSHM true (some segment) previous = snapshot segment ↔
        0 < (skeletonCount segment).toInt ∨ previous = []) := by
  obtain ⟨hmagic, hrecords⟩ := hwell
  constructor
  · rw [updateReads_inside_iff]
    intro _
    rw [snapshotSize, skeletonData] at hrecords
    refine ⟨by omega, fun _ => ⟨by omega, fun hcount => ?_⟩⟩
    rwa [max_eq_left (Int.le_of_lt hcount)] at hrecords
  · rw [updateFromSHM_eq hmagic]
    by_cases hcount : 0 < (skeletonCount segment).toInt
    · simp [hcount]
    · simp [hcount, snapshot_eq_nil (Int.not_lt.mp hcount)]

/-- A segment for one record whose other bytes are zero. -/
def countingSegment (count : UInt8) : MappedBytes where
  size := 448
  bytes := fun i =>
    if i = 0 then 0x50
    else if i = 1 then 0x57
    else if i = 2 then 0x34
    else if i = 3 then 0x4B
    else if i = 12 then count
    else 0

/-- One record takes the place of the two that were drawn before. -/
theorem updateFromSHM_snapshot_one :
    let previous := [record (countingSegment 0) 0, record (countingSegment 0) 0]
    Span.AllInside (countingSegment 1).size (updateReads true (countingSegment 1)) ∧
      snapshotSize (countingSegment 1) = 1 ∧
      updateFromSHM true (some (countingSegment 1)) previous = snapshot (countingSegment 1) := by
  intro previous
  have hwell : WellFormed (countingSegment 1) := ⟨by decide, by decide⟩
  have hupdate := updateFromSHM_snapshot_iff (countingSegment 1) previous hwell
  exact ⟨hupdate.1, by decide, hupdate.2.mpr (.inl (by decide))⟩

/-- A segment that counts no skeletons leaves the one drawn before. -/
theorem not_updateFromSHM_snapshot_empty :
    ¬ ∀ (segment : MappedBytes) (previous : List Skeleton), WellFormed segment →
      updateFromSHM true (some segment) previous = snapshot segment := by
  intro hall
  have hwell : WellFormed (countingSegment 0) := ⟨by decide, by decide⟩
  have hsame := hall (countingSegment 0) [record (countingSegment 0) 0] hwell
  have hcount : (skeletonCount (countingSegment 0)).toInt = 0 := by decide
  rw [updateFromSHM_eq hwell.magic, hcount, if_neg (Int.lt_irrefl 0),
    snapshot_eq_nil (Int.le_of_eq hcount)] at hsame
  cases hsame

end K4W.Gui.Skeletons
