import K4W.Shm.Segment

/-!
# The ring keeps the last three frames

The purpose of a segment, whatever its reader: it holds the latest
`K4W_RING_SIZE` frames published to it.  The abstract state is the list of
published frames, oldest first; the header represents it when its counters
count the list and the slots begin with the last three frames.
-/

namespace K4W.Shm

open K4W.Library.Ring

/-- The arguments of one call of `k4w_shm_write_frame`, and its `now_ms`. -/
structure Frame where
  data : Nat → UInt8
  size : UInt32
  nowMs : UInt64

/-- How many bytes of the frame a segment with this `frame_size` takes. -/
def Frame.len (frameSize : UInt32) (frame : Frame) : Nat :=
  min frame.size.toNat frameSize.toNat

def writeFrame (hdr : K4wShmHeader) (frame : Frame) : K4wShmHeader :=
  k4wShmWriteFrame hdr frame.data frame.size frame.nowMs

/-- A sequence of calls of `k4w_shm_write_frame`, first call first. -/
def writeFrames (hdr : K4wShmHeader) (frames : List Frame) : K4wShmHeader :=
  frames.foldl writeFrame hdr

/-- The fields that the two headers share; no writer changes them. -/
structure SameStream (start hdr : K4wShmHeader) : Prop where
  magic : hdr.magic = start.magic
  frameSize : hdr.frameSize = start.frameSize
  w : hdr.w = start.w
  h : hdr.h = start.h
  bpp : hdr.bpp = start.bpp
  readIdx : hdr.readIdx = start.readIdx

theorem sameStream_refl (hdr : K4wShmHeader) : SameStream hdr hdr :=
  ⟨rfl, rfl, rfl, rfl, rfl, rfl⟩

theorem SameStream.trans {first middle last : K4wShmHeader}
    (hfront : SameStream first middle) (hback : SameStream middle last) :
    SameStream first last :=
  ⟨hback.magic.trans hfront.magic, hback.frameSize.trans hfront.frameSize,
    hback.w.trans hfront.w, hback.h.trans hfront.h, hback.bpp.trans hfront.bpp,
    hback.readIdx.trans hfront.readIdx⟩

theorem sameStream_writeFrame (hdr : K4wShmHeader) (frame : Frame) :
    SameStream hdr (writeFrame hdr frame) :=
  ⟨rfl, rfl, rfl, rfl, rfl, rfl⟩

/-- Writing changes no header field but the index, the counter, and the time. -/
theorem sameStream_writeFrames (hdr : K4wShmHeader) (frames : List Frame) :
    SameStream hdr (writeFrames hdr frames) := by
  induction frames generalizing hdr with
  | nil => exact sameStream_refl hdr
  | cons frame rest ih =>
      exact (sameStream_writeFrame hdr frame).trans (ih (writeFrame hdr frame))

/-- The header represents a list of published frames. -/
structure Represents (hdr : K4wShmHeader) (frames : List Frame) : Prop where
  writeIdx : hdr.writeIdx.toNat = frames.length % 3
  seq : hdr.seq.toNat = frames.length % 2 ^ 32
  last : HoldsLast 3 hdr.frameSize.toNat Frame.data (Frame.len hdr.frameSize) 3
    hdr.data frames

/-- A segment whose counters are zero represents the empty list. -/
theorem represents_nil {hdr : K4wShmHeader} (hidx : hdr.writeIdx = 0) (hseq : hdr.seq = 0) :
    Represents hdr [] :=
  ⟨by rw [hidx]; rfl, by rw [hseq]; rfl, holdsLast_nil 3 hdr.data⟩

theorem Represents.writeIdx_lt {hdr : K4wShmHeader} {frames : List Frame}
    (hrep : Represents hdr frames) : hdr.writeIdx.toNat < 3 := by
  rw [hrep.writeIdx]
  exact Nat.mod_lt _ (by decide)

theorem len_le (frameSize : UInt32) (frame : Frame) :
    frame.len frameSize ≤ frameSize.toNat :=
  Nat.min_le_right _ _

/-- The writer fills the slot numbered by the count of frames published before. -/
theorem writeFrame_data {hdr : K4wShmHeader} {frames : List Frame}
    (hfit : 3 * hdr.frameSize.toNat < 2 ^ 32) (hrep : Represents hdr frames)
    (frame : Frame) :
    (writeFrame hdr frame).data =
      copyBlock hdr.data (frames.length % 3 * hdr.frameSize.toNat) frame.data
        (frame.len hdr.frameSize) := by
  have hidx := hrep.writeIdx_lt
  have hslot := writeIdx_slot hidx
  have hoffset : slotOffset hdr (hdr.writeIdx % k4wRingSize) =
      frames.length % 3 * hdr.frameSize.toNat := by
    rw [slotOffset_eq (by rw [hslot]; exact hidx) hfit, hslot, hrep.writeIdx]
  change copyBlock hdr.data (slotOffset hdr (hdr.writeIdx % k4wRingSize)) frame.data
    (clipSize hdr frame.size).toNat = _
  rw [hoffset, clipSize_toNat, Frame.len]

/-- One call of the writer publishes one frame. -/
theorem Represents.writeFrame {hdr : K4wShmHeader} {frames : List Frame}
    (hfit : 3 * hdr.frameSize.toNat < 2 ^ 32) (hrep : Represents hdr frames)
    (frame : Frame) : Represents (writeFrame hdr frame) (frames ++ [frame]) := by
  have hcount : (frames ++ [frame]).length = frames.length + 1 := by simp
  refine ⟨?_, ?_, ?_⟩
  · change ((hdr.writeIdx + 1) % k4wRingSize).toNat = _
    rw [writeIdx_next hrep.writeIdx_lt, hrep.writeIdx, hcount, Nat.mod_add_mod]
  · change (hdr.seq + 1).toNat = _
    rw [UInt32.toNat_add, hrep.seq, hcount]
    exact Nat.mod_add_mod _ _ _
  · rw [writeFrame_data hfit hrep frame]
    exact hrep.last.copy (len_le hdr.frameSize) (by decide) frame

/-- The writer refines the abstract ring over whole sequences of calls. -/
theorem Represents.writeFrames {hdr : K4wShmHeader} {before : List Frame}
    (hfit : 3 * hdr.frameSize.toNat < 2 ^ 32) (hrep : Represents hdr before)
    (frames : List Frame) : Represents (writeFrames hdr frames) (before ++ frames) := by
  induction frames generalizing hdr before with
  | nil => simpa [Shm.writeFrames] using hrep
  | cons frame rest ih =>
      have hfits : 3 * (Shm.writeFrame hdr frame).frameSize.toNat < 2 ^ 32 := hfit
      have hnext := ih hfits (hrep.writeFrame hfit frame)
      simpa [Shm.writeFrames] using hnext

/-- The `k`-th latest published frame; the latest one is number 1. -/
def latest (frames : List Frame) (k : Nat) : Option Frame :=
  frames[frames.length - k]?

/-- Going back `k` slots from `write_idx` reaches the `k`-th latest frame. -/
theorem Represents.slot_latest {hdr : K4wShmHeader} {frames : List Frame}
    (hrep : Represents hdr frames) {k : Nat} (hpos : 1 ≤ k) (hthree : k ≤ 3)
    (hk : k ≤ frames.length) {frame : Frame} (hframe : latest frames k = some frame) :
    SlotHolds hdr.data hdr.frameSize.toNat ((hdr.writeIdx.toNat + 3 - k) % 3) frame.data
      (frame.len hdr.frameSize) := by
  rw [hrep.writeIdx, slot_back hthree hk]
  exact hrep.last _ frame hframe (by omega)

end K4W.Shm
