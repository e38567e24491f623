import K4W.Shm.LastFrames
import K4W.OpenNI.Streams
import K4W.Gui.Readers

/-!
# All readers select the latest frame

Seven readers compute the slot before `write_idx` on their own, some in
`uint32_t` and some in `int`.  On every segment that represents a list of
published frames they select the slot of the latest one.
-/

namespace K4W.Shm

open K4W.Library.Ring

inductive Reader where
  | readFrame
  | depthStream
  | colorStream
  | readRGB
  | readDepth
  | readIR
  | micMonitor
deriving DecidableEq

namespace Reader

/-- The slot index that the reader computes. -/
def idx (hdr : K4wShmHeader) : Reader → Int
  | readFrame | readRGB | readDepth | readIR => (latestSlot hdr.writeIdx).toNat
  | depthStream | colorStream => (OpenNI.streamIdx hdr).toInt
  | micMonitor => (Gui.micIdx hdr).toInt

/-- The offset in `data` from which the reader copies. -/
def start (hdr : K4wShmHeader) : Reader → Int
  | readFrame | readRGB | readDepth | readIR => slotOffset hdr (latestSlot hdr.writeIdx)
  | depthStream | colorStream => OpenNI.streamStart hdr
  | micMonitor => Gui.micStart hdr

/-- The frame sizes of the segments that the reader maps. -/
def Maps (hdr : K4wShmHeader) : Reader → Prop
  | micMonitor => hdr.frameSize = 1024
  | _ => True

end Reader

/-- The slot before an index below three, as a number. -/
def slotBefore (writeIdx : UInt32) : Nat :=
  (writeIdx.toNat + 3 - 1) % 3

theorem slotBefore_lt (writeIdx : UInt32) : slotBefore writeIdx < 3 :=
  Nat.mod_lt _ (by decide)

theorem latestSlot_eq {hdr : K4wShmHeader} (hidx : hdr.writeIdx.toNat < 3) :
    (latestSlot hdr.writeIdx).toNat = slotBefore hdr.writeIdx :=
  latestSlot_toNat hidx

theorem slotOffset_latestSlot {hdr : K4wShmHeader} (hidx : hdr.writeIdx.toNat < 3)
    (hfit : 3 * hdr.frameSize.toNat < 2 ^ 32) :
    slotOffset hdr (latestSlot hdr.writeIdx) =
      slotBefore hdr.writeIdx * hdr.frameSize.toNat := by
  have hslot := latestSlot_eq hidx
  rw [slotOffset_eq (by rw [hslot]; exact slotBefore_lt _) hfit, hslot]

theorem streamStart_eq {hdr : K4wShmHeader} (hidx : hdr.writeIdx.toNat < 3)
    (hfit : 3 * hdr.frameSize.toNat < 2 ^ 32) :
    OpenNI.streamStart hdr = slotBefore hdr.writeIdx * hdr.frameSize.toNat := by
  rw [OpenNI.streamStart, OpenNI.streamIdx, latestSlotInt_toUInt32 hidx]
  exact slotOffset_latestSlot hidx hfit

/-- The monitor multiplies by its own constants, which make up one audio frame. -/
theorem micStart_eq {hdr : K4wShmHeader} (hidx : hdr.writeIdx.toNat < 3) :
    Gui.micStart hdr = slotBefore hdr.writeIdx * 1024 := by
  rw [Gui.micStart, Gui.micIdx, slotBefore]
  rcases writeIdx_cases hidx with h | h | h <;> rw [h] <;> rfl

theorem Reader.idx_eq {hdr : K4wShmHeader} (hidx : hdr.writeIdx.toNat < 3)
    (reader : Reader) : reader.idx hdr = slotBefore hdr.writeIdx := by
  have hunsigned := latestSlot_eq hidx
  have hsigned := latestSlotInt_toInt hidx
  cases reader with
  | readFrame | readRGB | readDepth | readIR => exact congrArg Nat.cast hunsigned
  | depthStream | colorStream | micMonitor => exact hsigned

theorem Reader.start_eq {hdr : K4wShmHeader} (hidx : hdr.writeIdx.toNat < 3)
    (hfit : 3 * hdr.frameSize.toNat < 2 ^ 32) {reader : Reader} (hmaps : reader.Maps hdr) :
    reader.start hdr = slotBefore hdr.writeIdx * hdr.frameSize.toNat := by
  have hoffset := congrArg (Nat.cast : Nat → Int) (slotOffset_latestSlot hidx hfit)
  have hstream := congrArg (Nat.cast : Nat → Int) (streamStart_eq hidx hfit)
  rw [Nat.cast_mul] at hoffset hstream
  cases reader with
  | readFrame | readRGB | readDepth | readIR => exact hoffset
  | depthStream | colorStream => exact hstream
  | micMonitor =>
      have hframe : hdr.frameSize = 1024 := hmaps
      have hbytes : hdr.frameSize.toNat = 1024 := by rw [hframe]; rfl
      rw [hbytes]
      exact_mod_cast micStart_eq hidx

/-! ## The readers copy from the slot -/

section Copied

variable {hdr : K4wShmHeader} (hidx : hdr.writeIdx.toNat < 3)

include hidx

theorem k4wShmReadFrame_slot (hfit : 3 * hdr.frameSize.toNat < 2 ^ 32) {out : Nat → UInt8}
    {size seq : UInt32} (hdelivered : (k4wShmReadFrame hdr out size seq).delivered = true)
    {i : Nat} (hi : i < (clipSize hdr size).toNat) :
    (k4wShmReadFrame hdr out size seq).out i =
      hdr.data (slotBefore hdr.writeIdx * hdr.frameSize.toNat + i) := by
  have hcopy := copyBlock_inside out 0
    (fun i => hdr.data (slotOffset hdr (latestSlot hdr.writeIdx) + i)) hi
  rw [Nat.zero_add, slotOffset_latestSlot hidx hfit] at hcopy
  unfold k4wShmReadFrame at hdelivered ⊢
  dsimp only at hdelivered ⊢
  split
  case isTrue hseen => simp [hseen] at hdelivered
  case isFalse =>
      rw [slotOffset_latestSlot hidx hfit]
      exact hcopy

theorem mainloopIteration_slot (hfit : 3 * hdr.frameSize.toNat < 2 ^ 32) {stream : OpenNI.Stream}
    {state : OpenNI.LoopState} {size : Nat} {acquired : Option (Nat → UInt8)}
    {raised : OpenNI.OniFrame}
    (hraised : (OpenNI.mainloopIteration stream state (some ⟨size, hdr⟩) acquired).2 =
      .raised raised) {i : Nat} (hi : i < stream.copiedBytes hdr.w.toInt32 hdr.h.toInt32) :
    raised.data i = hdr.data (slotBefore hdr.writeIdx * hdr.frameSize.toNat + i) := by
  unfold OpenNI.mainloopIteration at hraised
  dsimp only at hraised
  split at hraised
  · cases hraised
  · split at hraised
    · cases hraised
    · split at hraised
      · cases hraised
      · split at hraised
        case h_1 => cases hraised
        case h_2 buffer =>
            cases hraised
            have hcopy := copyBlock_inside buffer 0
              (fun i => hdr.data (OpenNI.streamStart hdr + i)) hi
            rw [Nat.zero_add, streamStart_eq hidx hfit] at hcopy
            simp only [OpenNI.fillFrame]
            rw [streamStart_eq hidx hfit]
            exact hcopy

theorem selectPixels_slot (hfit : 3 * hdr.frameSize.toNat < 2 ^ 32) {size : Nat}
    {pixels : Gui.PixelSource} (hpixels : Gui.selectPixels (some ⟨size, hdr⟩) = some pixels)
    (i : Nat) :
    pixels.bytes i = hdr.data (slotBefore hdr.writeIdx * hdr.frameSize.toNat + i) := by
  unfold Gui.selectPixels at hpixels
  dsimp only at hpixels
  split at hpixels
  · cases hpixels
  · cases hpixels
    dsimp only
    rw [slotOffset_latestSlot hidx hfit]

/-- The monitor copies the whole slot before `write_idx`. -/
theorem micIteration_slot {lastSeq : Int32} {enabled : Bool} {size : Nat} {start : Int}
    {bytes : List (Option UInt8)}
    (hcopied : (Gui.micIteration lastSeq enabled (some ⟨size, hdr⟩)).2 = .copied start bytes) :
    start = (slotBefore hdr.writeIdx * 1024 : Nat) ∧ ∀ i < Gui.micBytes,
      bytes[i]? = some (some (hdr.data (slotBefore hdr.writeIdx * 1024 + i))) := by
  have hstart := micStart_eq hidx
  unfold Gui.micIteration at hcopied
  dsimp only at hcopied
  split at hcopied
  · cases hcopied
  · split at hcopied
    · cases hcopied
    · split at hcopied
      · cases hcopied
      · cases hcopied
        refine ⟨by exact_mod_cast hstart, fun i hi => ?_⟩
        have hoffset : Gui.micStart hdr + i = (slotBefore hdr.writeIdx * 1024 + i : Nat) := by
          rw [hstart]
          push_cast
          rfl
        rw [List.getElem?_map, List.getElem?_range hi, Option.map_some, hoffset,
          if_pos (Int.natCast_nonneg _), Int.toNat_natCast]

end Copied

/-- The functions that copy from the segment copy from this slot, from its first byte on. -/
structure CopiesSlot (hdr : K4wShmHeader) (slot : Nat) : Prop where
  readFrame : ∀ out size seq, (k4wShmReadFrame hdr out size seq).delivered = true →
    ∀ i < (clipSize hdr size).toNat, (k4wShmReadFrame hdr out size seq).out i =
      hdr.data (slot * hdr.frameSize.toNat + i)
  mainloop : ∀ stream state size acquired raised,
    (OpenNI.mainloopIteration stream state (some ⟨size, hdr⟩) acquired).2 = .raised raised →
      ∀ i < stream.copiedBytes hdr.w.toInt32 hdr.h.toInt32,
        raised.data i = hdr.data (slot * hdr.frameSize.toNat + i)
  selectPixels : ∀ size pixels, Gui.selectPixels (some ⟨size, hdr⟩) = some pixels →
    ∀ i, pixels.bytes i = hdr.data (slot * hdr.frameSize.toNat + i)
  micMonitor : hdr.frameSize = 1024 → ∀ lastSeq enabled size start bytes,
    (Gui.micIteration lastSeq enabled (some ⟨size, hdr⟩)).2 = .copied start bytes →
      start = (slot * hdr.frameSize.toNat : Nat) ∧ ∀ i < Gui.micBytes,
        bytes[i]? = some (some (hdr.data (slot * hdr.frameSize.toNat + i)))

theorem copiesSlot_before {hdr : K4wShmHeader} (hidx : hdr.writeIdx.toNat < 3)
    (hfit : 3 * hdr.frameSize.toNat < 2 ^ 32) : CopiesSlot hdr (slotBefore hdr.writeIdx) where
  readFrame := fun _ _ _ hdelivered _ => k4wShmReadFrame_slot hidx hfit hdelivered
  mainloop := fun _ _ _ _ _ hraised _ => mainloopIteration_slot hidx hfit hraised
  selectPixels := fun _ _ => selectPixels_slot hidx hfit
  micMonitor := by
    intro hsize lastSeq enabled size start bytes hcopied
    rw [hsize]
    exact micIteration_slot hidx hcopied

/-! ## The readers deliver the latest frame -/

/-- The selected slot begins with the bytes of the latest frame. -/
theorem Represents.latest_byte {hdr : K4wShmHeader} {frames : List Frame}
    (hrep : Represents hdr frames) {frame : Frame} (hframe : latest frames 1 = some frame)
    (hframes : 1 ≤ frames.length) {i : Nat} (hi : i < frame.len hdr.frameSize) :
    hdr.data (slotBefore hdr.writeIdx * hdr.frameSize.toNat + i) = frame.data i :=
  hrep.slot_latest (Nat.le_refl 1) (by decide) hframes hframe i hi

section Delivered

variable {hdr : K4wShmHeader} {frames : List Frame} {frame : Frame}

theorem k4wShmReadFrame_latest (hfit : 3 * hdr.frameSize.toNat < 2 ^ 32)
    (hrep : Represents hdr frames) (hframes : 1 ≤ frames.length)
    (hframe : latest frames 1 = some frame) {out : Nat → UInt8} {size seq : UInt32}
    (hdelivered : (k4wShmReadFrame hdr out size seq).delivered = true) {i : Nat}
    (hsize : i < size.toNat) (hi : i < frame.len hdr.frameSize) :
    (k4wShmReadFrame hdr out size seq).out i = frame.data i := by
  have hclip : i < (clipSize hdr size).toNat := by
    rw [clipSize_toNat]
    exact Nat.lt_min.mpr ⟨hsize, Nat.lt_of_lt_of_le hi (len_le hdr.frameSize frame)⟩
  rw [k4wShmReadFrame_slot hrep.writeIdx_lt hfit hdelivered hclip,
    hrep.latest_byte hframe hframes hi]

/-- Both stream loops raise the latest frame. -/
theorem mainloopIteration_latest (hfit : 3 * hdr.frameSize.toNat < 2 ^ 32)
    (hrep : Represents hdr frames) (hframes : 1 ≤ frames.length)
    (hframe : latest frames 1 = some frame) {stream : OpenNI.Stream} {state : OpenNI.LoopState}
    {size : Nat} {acquired : Option (Nat → UInt8)} {raised : OpenNI.OniFrame}
    (hraised : (OpenNI.mainloopIteration stream state (some ⟨size, hdr⟩) acquired).2 =
      .raised raised) {i : Nat}
    (hcopied : i < stream.copiedBytes hdr.w.toInt32 hdr.h.toInt32)
    (hi : i < frame.len hdr.frameSize) : raised.data i = frame.data i := by
  rw [mainloopIteration_slot hrep.writeIdx_lt hfit hraised hcopied,
    hrep.latest_byte hframe hframes hi]

/-- The image readers take their pixels from the latest frame. -/
theorem selectPixels_latest (hfit : 3 * hdr.frameSize.toNat < 2 ^ 32)
    (hrep : Represents hdr frames) (hframes : 1 ≤ frames.length)
    (hframe : latest frames 1 = some frame) {size : Nat} {pixels : Gui.PixelSource}
    (hpixels : Gui.selectPixels (some ⟨size, hdr⟩) = some pixels) {i : Nat}
    (hi : i < frame.len hdr.frameSize) : pixels.bytes i = frame.data i := by
  rw [selectPixels_slot hrep.writeIdx_lt hfit hpixels, hrep.latest_byte hframe hframes hi]

/-- The monitor copies the samples of the latest period. -/
theorem micIteration_latest (hsize : hdr.frameSize = 1024) (hrep : Represents hdr frames)
    (hframes : 1 ≤ frames.length) (hframe : latest frames 1 = some frame) {lastSeq : Int32}
    {enabled : Bool} {size : Nat} {start : Int} {bytes : List (Option UInt8)}
    (hcopied : (Gui.micIteration lastSeq enabled (some ⟨size, hdr⟩)).2 = .copied start bytes)
    {i : Nat} (hi : i < frame.len hdr.frameSize) : bytes[i]? = some (some (frame.data i)) := by
  have hbyte := hrep.latest_byte hframe hframes hi
  have hlt : i < Gui.micBytes := by
    have hle := len_le hdr.frameSize frame
    rw [hsize] at hle hi
    exact Nat.lt_of_lt_of_le hi hle
  rw [hsize] at hbyte
  rw [(micIteration_slot hrep.writeIdx_lt hcopied).2 i hlt]
  exact congrArg (fun byte => some (some byte)) hbyte

end Delivered

/-! ## Every sequence of writes after creation -/

/--
After any sequence of writes to a created segment, whose geometry the daemon
may have set, the ring holds the last three frames, and all readers select the
slot of the latest one and copy from there.
-/
theorem lastFrames_of_writeFrames (calls : CreateCalls) (frameSize w h bpp : UInt32)
    (mapping : Mapping) (frames : List Frame) (hfit : 3 * frameSize.toNat < 2 ^ 32)
    (hcreate : k4wShmCreate calls frameSize = .ok mapping) (hframes : 1 ≤ frames.length) :
    let start := mapping.hdr.withGeometry w h bpp
    let hdr := writeFrames start frames
    hdr.writeIdx.toNat = frames.length % 3 ∧
      hdr.seq.toNat = frames.length % 2 ^ 32 ∧
      (∀ k, 1 ≤ k → k ≤ min frames.length 3 →
        ∃ frame, latest frames k = some frame ∧
          SlotHolds hdr.data frameSize.toNat ((hdr.writeIdx.toNat + 3 - k) % 3)
            frame.data (min frame.size.toNat frameSize.toNat)) ∧
      SameStream start hdr ∧
      (∀ reader : Reader, reader.Maps hdr →
        reader.idx hdr = ((frames.length - 1) % 3 : Nat) ∧
          reader.start hdr = ((frames.length - 1) % 3 : Nat) * frameSize.toNat) ∧
      CopiesSlot hdr ((frames.length - 1) % 3) := by
  intro start hdr
  have hmapping := k4wShmCreate_ok hcreate
  have hsize : start.frameSize = frameSize := by simp [start, hmapping, K4wShmHeader.withGeometry]
  have hempty : Represents start [] := by
    apply represents_nil
    · simp [start, hmapping, K4wShmHeader.withGeometry, zeroHeader]
    · simp [start, hmapping, K4wShmHeader.withGeometry, zeroHeader]
  have hrep : Represents hdr frames := hempty.writeFrames (by rw [hsize]; exact hfit) frames
  have hsame : SameStream start hdr := sameStream_writeFrames start frames
  have hframeSize : hdr.frameSize = frameSize := hsame.frameSize.trans hsize
  have hidx := hrep.writeIdx_lt
  have hslot : slotBefore hdr.writeIdx = (frames.length - 1) % 3 := by
    rw [slotBefore, hrep.writeIdx, slot_back (by decide) hframes]
  have hfits : 3 * hdr.frameSize.toNat < 2 ^ 32 := by rw [hframeSize]; exact hfit
  refine ⟨hrep.writeIdx, hrep.seq, ?_, hsame, ?_, hslot ▸ copiesSlot_before hidx hfits⟩
  · intro k hpos hk
    have hlt : frames.length - k < frames.length := by omega
    have hlatest : latest frames k = some frames[frames.length - k] :=
      List.getElem?_eq_getElem hlt
    have hholds := hrep.slot_latest hpos (by omega) (by omega) hlatest
    rw [Frame.len, hframeSize] at hholds
    exact ⟨_, hlatest, hholds⟩
  · intro reader hmaps
    rw [reader.idx_eq hidx, Reader.start_eq hidx hfits hmaps, hslot, hframeSize]
    exact ⟨rfl, rfl⟩

/-- Two audio periods, one of them longer than a frame. -/
theorem lastFrames_twoPeriods :
    let created := { size := totalBytes 1024, hdr := { zeroHeader with
      magic := k4wShmMagic, frameSize := 1024 } : Mapping }
    let frames : List Frame := [⟨fun _ => 7, 2048, 0⟩, ⟨fun _ => 9, 512, 1⟩]
    let start := created.hdr.withGeometry 0 0 0
    let hdr := writeFrames start frames
    hdr.writeIdx.toNat = frames.length % 3 ∧
      hdr.seq.toNat = frames.length % 2 ^ 32 ∧
      (∀ k, 1 ≤ k → k ≤ min frames.length 3 →
        ∃ frame, latest frames k = some frame ∧
          SlotHolds hdr.data (1024 : UInt32).toNat ((hdr.writeIdx.toNat + 3 - k) % 3)
            frame.data (min frame.size.toNat (1024 : UInt32).toNat)) ∧
      SameStream start hdr ∧
      (∀ reader : Reader, reader.Maps hdr →
        reader.idx hdr = ((frames.length - 1) % 3 : Nat) ∧
          reader.start hdr = ((frames.length - 1) % 3 : Nat) * (1024 : UInt32).toNat) ∧
      CopiesSlot hdr ((frames.length - 1) % 3) :=
  lastFrames_of_writeFrames ⟨true, true, true⟩ 1024 0 0 0 _ _ (by decide) rfl (by decide)

end K4W.Shm
