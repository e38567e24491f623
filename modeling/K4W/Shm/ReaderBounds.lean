import K4W.Shm.Layout
import K4W.Shm.ReaderAgreement

/-!
# The bytes that the readers touch

Seven readers map a segment that any process can have written: the two stream
loops of the plugin, the three image functions and the microphone monitor of the
control window, and the skeleton tracker.  For each of them this module lists the
bytes that one pass reads from the mapping, in program order, and says exactly
when all of them lie inside.
-/

namespace K4W.Shm

open K4W.Library
open K4W.Library.CInt
open K4W.Library.Ring
open K4W.Shm.MappedBytes

/-! ## The stream loops -/

/--
One iteration of `mainloop` with a mapping; `acquired` tells whether
`acquireFrame` returns a frame.  The magic is loaded before the size is tested.
-/
def streamReads (stream : OpenNI.Stream) (state : OpenNI.LoopState) (acquired : Bool)
    (segment : MappedBytes) : List Span :=
  let hdr := segment.header
  field 0 ::
    if hdr.magic ≠ k4wShmMagic ∨ segment.size < headerBytes then
      []
    else field 28 ::
      if OpenNI.notNew state hdr then
        []
      else field 20 :: field 4 :: field 8 :: field 12 ::
        if hdr.w.toInt32 = 0 ∨ hdr.h.toInt32 = 0 then
          []
        else if !acquired then
          []
        else
          [⟨(headerBytes + OpenNI.streamStart hdr : Nat),
              stream.copiedBytes hdr.w.toInt32 hdr.h.toInt32⟩,
            ⟨32, 8⟩]

/-! ## The images of the control window -/

/-- What the three image functions read before their pixels. -/
def imageReads (pixels : K4wShmHeader → List Span) (segment : MappedBytes) : List Span :=
  let hdr := segment.header
  field 0 ::
    if hdr.magic ≠ k4wShmMagic then
      []
    else
      field 20 :: field 4 :: field 8 :: field 12 :: pixels hdr

/-- Offset in the mapping of the frame that the image functions select. -/
def frameStart (hdr : K4wShmHeader) : Nat :=
  headerBytes + slotOffset hdr (latestSlot hdr.writeIdx)

/--
The copy of the `QImage` of `readRGB`, which reads the three bytes of every
pixel, line by line.  `copies` tells for a width, a height, and a number of bytes
per line whether neither the image nor its copy is null.
-/
def rgbPixels (copies : Int32 → Int32 → Nat → Bool) (hdr : K4wShmHeader) : List Span :=
  let w := hdr.w.toInt32
  let h := hdr.h.toInt32
  let bytesPerLine := (hdr.w * 3).toNat
  if copies w h bytesPerLine then
    (List.range h.toInt.toNat).flatMap fun y =>
      [⟨(frameStart hdr + y * bytesPerLine : Nat), 3 * w.toInt.toNat⟩]
  else
    []

/-- The loops of `depthToJET`, which count both coordinates and their index in `int`. -/
def depthPixels (hdr : K4wShmHeader) : List Span :=
  let w := hdr.w.toInt32
  let h := hdr.h.toInt32
  (List.range h.toInt.toNat).flatMap fun y =>
    (List.range w.toInt.toNat).flatMap fun x =>
      [⟨frameStart hdr + 2 * (Int32.ofNat y * w + Int32.ofNat x).toInt, 2⟩]

/-- The loops of `readIR`, whose index is computed in `uint32_t`. -/
def irPixels (hdr : K4wShmHeader) : List Span :=
  let w := hdr.w.toInt32
  let h := hdr.h.toInt32
  (List.range h.toInt.toNat).flatMap fun y =>
    (List.range w.toInt.toNat).flatMap fun x =>
      [⟨(frameStart hdr + 2 * (UInt32.ofNat y * hdr.w + UInt32.ofNat x).toNat : Nat), 2⟩]

/-! ## The microphone monitor and the skeleton tracker -/

/-- One iteration of `MicMonitorThread::run` with a mapping. -/
def micReads (lastSeq : Int32) (enabled : Bool) (segment : MappedBytes) : List Span :=
  let hdr := segment.header
  if !enabled then
    []
  else field 0 ::
    if hdr.magic ≠ k4wShmMagic then
      []
    else field 28 ::
      if hdr.seq.toInt32 == lastSeq || hdr.seq.toInt32 < 1 then
        []
      else
        [field 20, ⟨headerBytes + Gui.micStart hdr, Gui.micBytes⟩]

/-- `SKELETON_MAX_PERSONS` -/
def skeletonMaxPersons : Nat := 2

/-- `NUM_LANDMARKS` -/
def numLandmarks : Nat := 33

/-- Offset in the mapping of `data`: after eight words. -/
def skeletonData : Nat := 32

/-- Bytes from one skeleton to the next. -/
def skeletonBytes : Nat := 416

/-- The copies out of one skeleton: box, confidence, and the keypoints. -/
def skeletonReads (sk : Nat) : List Span :=
  let kps := sk + 20
  field sk :: field (sk + 4) :: field (sk + 8) :: field (sk + 12) :: field (sk + 16) ::
    (List.range numLandmarks).flatMap fun j =>
      [field (kps + j * 12), field (kps + j * 12 + 4), field (kps + j * 12 + 8)]

/-- `hdr[3]` as an `int`. -/
def skeletonCount (segment : MappedBytes) : Int32 :=
  (segment.word 12).toInt32

/-- `SkeletonTracker::updateFromSHM` with a mapping. -/
def updateReads (enabled : Bool) (segment : MappedBytes) : List Span :=
  if !enabled then
    []
  else field 0 ::
    if segment.word 0 ≠ k4wShmMagic then
      []
    else field 12 ::
      if skeletonCount segment ≤ 0 then
        []
      else
        (List.range (min (skeletonCount segment).toInt.toNat skeletonMaxPersons)).flatMap
          fun i => skeletonReads (skeletonData + i * skeletonBytes)

/-! ## One pass of a reader -/

/-- A reader, with all that decides its course besides the segment. -/
inductive Pass where
  | depthStream (state : OpenNI.LoopState) (acquired : Bool)
  | colorStream (state : OpenNI.LoopState) (acquired : Bool)
  | readRGB (copies : Int32 → Int32 → Nat → Bool)
  | readDepth
  | readIR
  | micMonitor (lastSeq : Int32) (enabled : Bool)
  | updateFromSHM (enabled : Bool)

/-- The bytes of the mapping that the pass reads. -/
def Pass.reads (segment : MappedBytes) : Pass → List Span
  | depthStream state acquired => streamReads OpenNI.depthStream state acquired segment
  | colorStream state acquired => streamReads OpenNI.colorStream state acquired segment
  | readRGB copies => imageReads (rgbPixels copies) segment
  | readDepth => imageReads depthPixels segment
  | readIR => imageReads irPixels segment
  | micMonitor lastSeq enabled => micReads lastSeq enabled segment
  | updateFromSHM enabled => updateReads enabled segment

/-! ## When the stream loops stay inside -/

def StreamFits (stream : OpenNI.Stream) (state : OpenNI.LoopState) (acquired : Bool)
    (segment : MappedBytes) : Prop :=
  let hdr := segment.header
  let copied := stream.copiedBytes hdr.w.toInt32 hdr.h.toInt32
  4 ≤ segment.size ∧
    (hdr.magic = k4wShmMagic → headerBytes ≤ segment.size →
      OpenNI.notNew state hdr = false → hdr.w.toInt32 ≠ 0 → hdr.h.toInt32 ≠ 0 →
        acquired = true →
          copied = 0 ∨ headerBytes + OpenNI.streamStart hdr + copied ≤ segment.size)

theorem streamReads_inside_iff (stream : OpenNI.Stream) (state : OpenNI.LoopState)
    (acquired : Bool) (segment : MappedBytes) :
    Span.AllInside segment.size (streamReads stream state acquired segment) ↔
      StreamFits stream state acquired segment := by
  unfold streamReads StreamFits
  have hbytes : headerBytes = 40 := rfl
  simp only [Span.allInside_cons, field_inside_iff, Span.allInside_unless]
  simp only [Span.inside_iff]
  constructor
  · rintro ⟨hmagicIn, hrest⟩
    refine ⟨hmagicIn, fun hmagic hsize hnew hw hh hacquired => ?_⟩
    obtain ⟨-, hpass⟩ := hrest (by simp [hmagic, hsize])
    obtain ⟨-, -, -, -, hpixels⟩ := hpass (by simp [hnew])
    obtain ⟨hframe, -⟩ := hpixels (by simp [hw, hh]) (by simp [hacquired])
    omega
  · rintro ⟨hmagicIn, hfits⟩
    refine ⟨hmagicIn, fun hgood => ?_⟩
    obtain ⟨hmagic, hsize⟩ := not_or.mp hgood
    refine ⟨by omega, fun hnew => ⟨by omega, by omega, by omega, by omega, ?_⟩⟩
    intro hgeometry hacquired
    obtain ⟨hw, hh⟩ := not_or.mp hgeometry
    have hframe := hfits (not_not.mp hmagic) (by omega) (by simpa using hnew) hw hh
      (by simpa using hacquired)
    refine ⟨?_, by omega, Span.allInside_nil _⟩
    omega

/-! ## When the image functions stay inside -/

def ImageFits (pixelsFit : K4wShmHeader → Prop) (segment : MappedBytes) : Prop :=
  4 ≤ segment.size ∧
    (segment.header.magic = k4wShmMagic → 24 ≤ segment.size ∧ pixelsFit segment.header)

theorem imageReads_inside_iff {pixels : K4wShmHeader → List Span}
    {pixelsFit : K4wShmHeader → Prop} {segment : MappedBytes}
    (hpixels : Span.AllInside segment.size (pixels segment.header) ↔
      pixelsFit segment.header) :
    Span.AllInside segment.size (imageReads pixels segment) ↔ ImageFits pixelsFit segment := by
  unfold imageReads ImageFits
  simp only [Span.allInside_cons, field_inside_iff, Span.allInside_unless, not_not, hpixels]
  constructor
  · rintro ⟨hmagicIn, hrest⟩
    refine ⟨hmagicIn, fun hmagic => ?_⟩
    obtain ⟨hindex, -, -, -, hfits⟩ := hrest hmagic
    exact ⟨hindex, hfits⟩
  · rintro ⟨hmagicIn, hrest⟩
    refine ⟨hmagicIn, fun hmagic => ?_⟩
    obtain ⟨hindex, hfits⟩ := hrest hmagic
    exact ⟨hindex, by omega, by omega, by omega, hfits⟩

/-- Rows and columns of the loops over an image, which count an `int` from zero. -/
def rows (hdr : K4wShmHeader) : Nat :=
  hdr.h.toInt32.toInt.toNat

def columns (hdr : K4wShmHeader) : Nat :=
  hdr.w.toInt32.toInt.toNat

/-- The last line that the copy reads ends inside the segment. -/
def RgbFits (copies : Int32 → Int32 → Nat → Bool) (size : Nat) (hdr : K4wShmHeader) : Prop :=
  let bytesPerLine := (hdr.w * 3).toNat
  copies hdr.w.toInt32 hdr.h.toInt32 bytesPerLine = true → 0 < columns hdr → 0 < rows hdr →
    frameStart hdr + (rows hdr - 1) * bytesPerLine + 3 * columns hdr ≤ size

/--
Past `2 ^ 31` pixels the `int` index wraps: the loops then read `2 ^ 32` bytes
on both sides of the frame.
-/
def DepthFits (size : Nat) (hdr : K4wShmHeader) : Prop :=
  let area := rows hdr * columns hdr
  (area ≤ 2 ^ 31 → area = 0 ∨ frameStart hdr + 2 * area ≤ size) ∧
    (2 ^ 31 < area → 2 ^ 32 ≤ frameStart hdr ∧ frameStart hdr + 2 ^ 32 ≤ size)

/-- Past `2 ^ 32` pixels the `uint32_t` index wraps. -/
def IrFits (size : Nat) (hdr : K4wShmHeader) : Prop :=
  let area := rows hdr * columns hdr
  area = 0 ∨ frameStart hdr + 2 * min area (2 ^ 32) ≤ size

theorem rgbPixels_inside_iff (copies : Int32 → Int32 → Nat → Bool) (size : Nat)
    (hdr : K4wShmHeader) :
    Span.AllInside size (rgbPixels copies hdr) ↔ RgbFits copies size hdr := by
  unfold rgbPixels RgbFits
  dsimp only
  split
  case isFalse hnull =>
      exact ⟨fun _ hcopies => absurd hcopies hnull, fun _ => Span.allInside_nil size⟩
  case isTrue hcopies =>
      rw [Span.allInside_loop_iff]
      simp only [Span.allInside_cons, Span.allInside_nil, and_true, Span.inside_iff]
      change (∀ y < rows hdr, _) ↔ _
      constructor
      · intro hlines _ hcolumns hrows
        have hlast := hlines (rows hdr - 1) (by omega)
        rw [columns] at hcolumns ⊢
        omega
      · intro hfits y hy
        by_cases hcolumns : columns hdr = 0
        · rw [columns] at hcolumns
          omega
        · have hlast := hfits hcopies (by omega) (by omega)
          have hlines : y * (hdr.w * 3).toNat ≤ (rows hdr - 1) * (hdr.w * 3).toNat :=
            Nat.mul_le_mul_right _ (by omega)
          rw [columns] at hcolumns hlast
          omega

/-- A positive width is that of the header. -/
theorem columns_eq {hdr : K4wShmHeader} {x : Nat} (hx : x < columns hdr) :
    hdr.w.toInt32.toInt = columns hdr ∧ hdr.w.toNat = columns hdr := by
  have hpos : 0 < hdr.w.toInt32.toInt := by
    rw [columns] at hx
    omega
  have hvalue := toInt_toInt32_of_pos hpos
  rw [columns]
  omega

theorem rows_lt (hdr : K4wShmHeader) : rows hdr < 2 ^ 31 := by
  have hlt := hdr.h.toInt32.toInt_lt
  rw [rows]
  omega

theorem columns_lt (hdr : K4wShmHeader) : columns hdr < 2 ^ 31 := by
  have hlt := hdr.w.toInt32.toInt_lt
  rw [columns]
  omega

/-- The pixels of `depthToJET` by their number. -/
theorem depthPixels_inside (size : Nat) (hdr : K4wShmHeader) :
    Span.AllInside size (depthPixels hdr) ↔ ∀ i < rows hdr * columns hdr,
      Span.Inside size ⟨frameStart hdr + 2 * (i : Int).bmod (2 ^ 32), 2⟩ := by
  rw [← Span.forall_cell_iff, depthPixels, Span.allInside_loop_iff]
  refine forall₂_congr fun y hy => ?_
  rw [Span.allInside_loop_iff]
  refine forall₂_congr fun x hx => ?_
  have hy31 : y < 2 ^ 31 := Nat.lt_trans hy (rows_lt hdr)
  have hx31 : x < 2 ^ 31 := Nat.lt_trans hx (columns_lt hdr)
  rw [toInt_index _ hx31 hy31, (columns_eq hx).1]
  simp

theorem depthPixels_inside_iff (size : Nat) (hdr : K4wShmHeader) :
    Span.AllInside size (depthPixels hdr) ↔ DepthFits size hdr := by
  rw [depthPixels_inside, DepthFits]
  -- Below `2 ^ 31` the index is the number of the pixel; from there on it is negative.
  have hsmall : ∀ i : Nat, i < 2 ^ 31 → (i : Int).bmod (2 ^ 32) = i :=
    fun i hi => Int.bmod_eq_of_le (by omega) (by omega)
  have hwrapped : ((2 ^ 31 : Nat) : Int).bmod (2 ^ 32) = -2 ^ 31 := by decide
  simp only [Span.inside_iff]
  constructor
  · intro hpixels
    constructor
    · intro harea
      by_cases hzero : rows hdr * columns hdr = 0
      · exact .inl hzero
      · have hlast := hpixels (rows hdr * columns hdr - 1) (by omega)
        rw [hsmall _ (by omega)] at hlast
        omega
    · intro harea
      have hlast := hpixels (2 ^ 31 - 1) (by omega)
      rw [hsmall _ (by decide)] at hlast
      have hfirst := hpixels (2 ^ 31) harea
      rw [hwrapped] at hfirst
      omega
  · rintro ⟨hbelow, habove⟩ i hi
    have hlow : -2 ^ 31 ≤ (i : Int).bmod (2 ^ 32) := Int.le_bmod (by decide)
    have hhigh : (i : Int).bmod (2 ^ 32) < 2 ^ 31 := Int.bmod_lt (by decide)
    rcases Nat.lt_or_ge (2 ^ 31) (rows hdr * columns hdr) with hlarge | hfew
    · have hboth := habove hlarge
      omega
    · have hframe := hbelow hfew
      rw [hsmall i (by omega)]
      omega

/-- The pixels of `readIR` by their number. -/
theorem irPixels_inside (size : Nat) (hdr : K4wShmHeader) :
    Span.AllInside size (irPixels hdr) ↔ ∀ i < rows hdr * columns hdr,
      frameStart hdr + 2 * (i % 2 ^ 32) + 2 ≤ size := by
  rw [← Span.forall_cell_iff, irPixels, Span.allInside_loop_iff]
  refine forall₂_congr fun y hy => ?_
  rw [Span.allInside_loop_iff]
  refine forall₂_congr fun x hx => ?_
  rw [toNat_index, (columns_eq hx).2, Span.allInside_cons,
    Span.inside_natCast_iff (by decide)]
  simp

theorem irPixels_inside_iff (size : Nat) (hdr : K4wShmHeader) :
    Span.AllInside size (irPixels hdr) ↔ IrFits size hdr := by
  rw [irPixels_inside, IrFits]
  constructor
  · intro hpixels
    by_cases hzero : rows hdr * columns hdr = 0
    · exact .inl hzero
    · have hlast := hpixels (min (rows hdr * columns hdr) (2 ^ 32) - 1) (by omega)
      rw [Nat.mod_eq_of_lt (by omega)] at hlast
      omega
  · rintro (hzero | hfits) i hi
    · omega
    · have hmod : i % 2 ^ 32 < min (rows hdr * columns hdr) (2 ^ 32) := by
        have hle := Nat.mod_le i (2 ^ 32)
        have hlt := Nat.mod_lt i (show 2 ^ 32 > 0 by decide)
        omega
      omega

/-! ## When the other readers stay inside -/

def MicFits (lastSeq : Int32) (enabled : Bool) (segment : MappedBytes) : Prop :=
  let hdr := segment.header
  enabled = true →
    4 ≤ segment.size ∧
      (hdr.magic = k4wShmMagic → 32 ≤ segment.size ∧
        (hdr.seq.toInt32 ≠ lastSeq → ¬ hdr.seq.toInt32 < 1 →
          0 ≤ headerBytes + Gui.micStart hdr ∧
            headerBytes + Gui.micStart hdr + Gui.micBytes ≤ segment.size))

theorem micReads_inside_iff (lastSeq : Int32) (enabled : Bool) (segment : MappedBytes) :
    Span.AllInside segment.size (micReads lastSeq enabled segment) ↔
      MicFits lastSeq enabled segment := by
  unfold micReads MicFits
  have hlen : Gui.micBytes ≠ 0 := by decide
  simp only [Span.allInside_cons, field_inside_iff, Span.allInside_unless, Span.allInside_nil,
    Bool.not_eq_true', Bool.not_eq_false, not_not, and_true]
  simp only [Span.inside_iff, hlen, false_or]
  constructor
  · intro hreads henabled
    obtain ⟨hmagicIn, hrest⟩ := hreads henabled
    refine ⟨hmagicIn, fun hmagic => ?_⟩
    obtain ⟨hseqIn, hpass⟩ := hrest hmagic
    exact ⟨hseqIn, fun hnew hone => (hpass (by simp [hnew, hone])).2⟩
  · intro hfits henabled
    obtain ⟨hmagicIn, hrest⟩ := hfits henabled
    refine ⟨hmagicIn, fun hmagic => ?_⟩
    obtain ⟨hseqIn, hpass⟩ := hrest hmagic
    refine ⟨hseqIn, fun hgate => ⟨by omega, ?_⟩⟩
    simp only [Bool.or_eq_true, beq_iff_eq, decide_eq_true_eq, not_or] at hgate
    exact hpass hgate.1 hgate.2

def UpdateFits (enabled : Bool) (segment : MappedBytes) : Prop :=
  let count := (skeletonCount segment).toInt
  enabled = true →
    4 ≤ segment.size ∧
      (segment.word 0 = k4wShmMagic → 16 ≤ segment.size ∧
        (0 < count →
          skeletonData + min count.toNat skeletonMaxPersons * skeletonBytes ≤ segment.size))

/-- The last keypoint ends where the next skeleton begins. -/
theorem skeletonReads_inside_iff (size sk : Nat) :
    Span.AllInside size (skeletonReads sk) ↔ sk + skeletonBytes ≤ size := by
  unfold skeletonReads
  simp only [Span.allInside_cons, Span.allInside_loop_iff, field_inside_iff,
    Span.allInside_nil, and_true, skeletonBytes, numLandmarks]
  constructor
  · rintro ⟨-, -, -, -, -, hkeypoints⟩
    have hlast := (hkeypoints 32 (by decide)).2.2
    omega
  · intro hend
    refine ⟨by omega, by omega, by omega, by omega, by omega, fun j hj => ?_⟩
    exact ⟨by omega, by omega, by omega⟩

theorem updateReads_inside_iff (enabled : Bool) (segment : MappedBytes) :
    Span.AllInside segment.size (updateReads enabled segment) ↔
      UpdateFits enabled segment := by
  have hcount : skeletonCount segment ≤ 0 ↔ (skeletonCount segment).toInt ≤ 0 :=
    Int32.le_iff_toInt_le
  unfold updateReads UpdateFits
  simp only [Span.allInside_cons, field_inside_iff, Span.allInside_unless,
    Span.allInside_loop_iff, skeletonReads_inside_iff, Bool.not_eq_true', Bool.not_eq_false,
    not_not, hcount, Int.not_le]
  refine forall_congr' fun _ => and_congr_right fun _ => forall_congr' fun _ =>
    and_congr_right fun _ => forall_congr' fun hpos => ?_
  simp only [show skeletonBytes = 416 from rfl, show skeletonMaxPersons = 2 from rfl]
  constructor
  · intro hall
    have hlast := hall (min (skeletonCount segment).toInt.toNat 2 - 1) (by omega)
    omega
  · intro hfits i hi
    omega

/-! ## Every reader -/

/-- The condition under which a pass stays inside the segment, by its reader. -/
def Pass.Fits (segment : MappedBytes) : Pass → Prop
  | depthStream state acquired => StreamFits OpenNI.depthStream state acquired segment
  | colorStream state acquired => StreamFits OpenNI.colorStream state acquired segment
  | readRGB copies => ImageFits (RgbFits copies segment.size) segment
  | readDepth => ImageFits (DepthFits segment.size) segment
  | readIR => ImageFits (IrFits segment.size) segment
  | micMonitor lastSeq enabled => MicFits lastSeq enabled segment
  | updateFromSHM enabled => UpdateFits enabled segment

/-- A pass reads only bytes of the segment exactly when the fields it trusts fit it. -/
theorem Pass.reads_inside_iff (segment : MappedBytes) (pass : Pass) :
    Span.AllInside segment.size (pass.reads segment) ↔ pass.Fits segment := by
  cases pass with
  | depthStream state acquired => exact streamReads_inside_iff _ state acquired segment
  | colorStream state acquired => exact streamReads_inside_iff _ state acquired segment
  | readRGB copies => exact imageReads_inside_iff (rgbPixels_inside_iff copies _ _)
  | readDepth => exact imageReads_inside_iff (depthPixels_inside_iff _ _)
  | readIR => exact imageReads_inside_iff (irPixels_inside_iff _ _)
  | micMonitor lastSeq enabled => exact micReads_inside_iff lastSeq enabled segment
  | updateFromSHM enabled => exact updateReads_inside_iff enabled segment

/-- One page that begins with the header of a published depth frame of 640 by 480 pixels. -/
def shortDepth : MappedBytes where
  size := 4096
  bytes := fun i =>
    [0x50, 0x57, 0x34, 0x4B, 0x00, 0x60, 0x09, 0x00, 0x80, 0x02, 0x00, 0x00, 0xE0, 0x01, 0x00,
      0x00, 0x02, 0x00, 0x00, 0x00, 0x01, 0x00, 0x00, 0x00, 0x00, 0x00, 0x00, 0x00, 0x01].getD i 0

/-- The depth stream reads its frame from a segment of one page, past its end. -/
theorem not_reads_inside : ¬ ∀ (segment : MappedBytes) (pass : Pass),
    0 < segment.size → Span.AllInside segment.size (pass.reads segment) := by
  intro hall
  have hinside := hall shortDepth (.depthStream .initial true) (by decide)
  have hframe : (⟨40, 614400⟩ : Span) ∈
      streamReads OpenNI.depthStream .initial true shortDepth := by decide
  have hpast := (hinside _ hframe 4056 (by decide)).2
  exact absurd hpast (by decide)

/-! ## The bytes read decide what a loop does -/

/-- The raised frame depends on the fields it is filled from and on the bytes copied. -/
theorem fillFrame_congr (stream : OpenNI.Stream) (frameId : Int32) (buffer : Nat → UInt8)
    {first second : K4wShmHeader} (hw : first.w = second.w) (hh : first.h = second.h)
    (htimestamp : first.timestampMs = second.timestampMs)
    (hstart : OpenNI.streamStart second = OpenNI.streamStart first)
    (hdata : ∀ i < stream.copiedBytes first.w.toInt32 first.h.toInt32,
      first.data (OpenNI.streamStart first + i) = second.data (OpenNI.streamStart first + i)) :
    OpenNI.fillFrame stream frameId first buffer =
      OpenNI.fillFrame stream frameId second buffer := by
  unfold OpenNI.fillFrame
  dsimp only
  rw [← hw, ← hh, ← htimestamp, hstart, copyBlock_congr buffer 0 hdata]

/-- A stream loop does the same on segments that agree in the bytes it reads. -/
theorem mainloopIteration_eq_of_agree (stream : OpenNI.Stream) (state : OpenNI.LoopState)
    (acquired : Option (Nat → UInt8)) {first second : MappedBytes}
    (hsize : first.size = second.size)
    (hagree : Span.Agree (streamReads stream state acquired.isSome first)
      first.bytes second.bytes) :
    OpenNI.mainloopIteration stream state (some first.mapping) acquired =
      OpenNI.mainloopIteration stream state (some second.mapping) acquired := by
  unfold streamReads at hagree
  dsimp only at hagree
  rw [Span.agree_cons] at hagree
  obtain ⟨hfirst, hrest⟩ := hagree
  have hmagic : first.header.magic = second.header.magic := word_eq_of_sameCells hfirst
  unfold OpenNI.mainloopIteration
  dsimp only [mapping]
  rw [← hsize, ← hmagic]
  split
  case isTrue => rfl
  case isFalse hgood =>
      rw [if_neg hgood, Span.agree_cons] at hrest
      obtain ⟨hfield, hrest⟩ := hrest
      have hseq : first.header.seq = second.header.seq := word_eq_of_sameCells hfield
      have hgate : OpenNI.notNew state second.header = OpenNI.notNew state first.header := by
        rw [OpenNI.notNew, OpenNI.notNew, hseq]
      rw [hgate, ← hseq]
      split
      case isTrue => rfl
      case isFalse hnew =>
          rw [if_neg hnew] at hrest
          simp only [Span.agree_cons] at hrest
          obtain ⟨hindexAt, hframeSizeAt, hwAt, hhAt, hrest⟩ := hrest
          have hw : first.header.w = second.header.w := word_eq_of_sameCells hwAt
          have hh : first.header.h = second.header.h := word_eq_of_sameCells hhAt
          have hstart : OpenNI.streamStart second.header = OpenNI.streamStart first.header := by
            have hindex : first.header.writeIdx = second.header.writeIdx :=
              word_eq_of_sameCells hindexAt
            have hframeSize : first.header.frameSize = second.header.frameSize :=
              word_eq_of_sameCells hframeSizeAt
            rw [OpenNI.streamStart, OpenNI.streamStart, OpenNI.streamIdx, OpenNI.streamIdx,
              slotOffset, slotOffset, hindex, hframeSize]
          rw [← hw, ← hh]
          split
          case isTrue => rfl
          case isFalse hgeometry =>
              cases acquired with
              | none => rfl
              | some buffer =>
                  rw [if_neg hgeometry, if_neg (by simp)] at hrest
                  simp only [Span.agree_cons] at hrest
                  obtain ⟨hpixels, htime, -⟩ := hrest
                  have htimestamp : first.header.timestampMs = second.header.timestampMs :=
                    doubleWord_eq_of_sameCells htime
                  dsimp only
                  rw [fillFrame_congr stream state.frameId buffer hw hh htimestamp hstart]
                  intro i hi
                  have hcell := hpixels.cell hi
                  rwa [Nat.add_assoc] at hcell

/-- One sample byte of the monitor, which has a value from `data` on. -/
theorem micByte_congr {first second : MappedBytes} {start : Int}
    (hsamples : Span.SameCells ⟨headerBytes + start, Gui.micBytes⟩ first.bytes second.bytes)
    {i : Nat} (hi : i < Gui.micBytes) :
    (if 0 ≤ start + i then some (first.header.data (start + i).toNat) else none) =
      if 0 ≤ start + i then some (second.header.data (start + i).toNat) else none := by
  split
  case isFalse => rfl
  case isTrue hdata =>
      have hcell := hsamples i hi (by dsimp only; omega)
      have hoffset : (headerBytes + start + i).toNat = headerBytes + (start + i).toNat := by omega
      dsimp only at hcell
      rw [hoffset] at hcell
      exact congrArg some hcell

/-- The monitor copies the same samples from segments that agree in the bytes it reads. -/
theorem micIteration_eq_of_agree (lastSeq : Int32) (enabled : Bool)
    {first second : MappedBytes}
    (hagree : Span.Agree (micReads lastSeq enabled first) first.bytes second.bytes) :
    Gui.micIteration lastSeq enabled (some first.mapping) =
      Gui.micIteration lastSeq enabled (some second.mapping) := by
  unfold micReads at hagree
  dsimp only at hagree
  unfold Gui.micIteration
  dsimp only [mapping]
  cases enabled with
  | false => rw [if_pos Bool.not_false, if_pos Bool.not_false]
  | true =>
      simp only [Bool.not_true, Bool.false_eq_true, if_false, Span.agree_cons] at hagree ⊢
      obtain ⟨hfirst, hrest⟩ := hagree
      have hmagic : first.header.magic = second.header.magic := word_eq_of_sameCells hfirst
      rw [← hmagic]
      split
      case isTrue => rfl
      case isFalse hgood =>
          rw [if_neg hgood, Span.agree_cons] at hrest
          obtain ⟨hfield, hrest⟩ := hrest
          have hseq : first.header.seq = second.header.seq := word_eq_of_sameCells hfield
          rw [← hseq]
          split
          case isTrue => rfl
          case isFalse hnew =>
              rw [if_neg hnew] at hrest
              simp only [Span.agree_cons] at hrest
              obtain ⟨hindexAt, hsamples, -⟩ := hrest
              have hindex : first.header.writeIdx = second.header.writeIdx :=
                word_eq_of_sameCells hindexAt
              have hstart : Gui.micStart second.header = Gui.micStart first.header := by
                rw [Gui.micStart, Gui.micStart, Gui.micIdx, Gui.micIdx, hindex]
              rw [hstart, List.map_congr_left fun i hi =>
                micByte_congr hsamples (List.mem_range.mp hi)]

/-! ## Segments that the daemon made -/

/-- The frame size is enough for what the pass copies; the daemon makes no skeletons. -/
def Pass.Served (hdr : K4wShmHeader) : Pass → Prop
  | depthStream _ _ =>
      OpenNI.depthStream.copiedBytes hdr.w.toInt32 hdr.h.toInt32 ≤ hdr.frameSize.toNat
  | colorStream _ _ =>
      OpenNI.colorStream.copiedBytes hdr.w.toInt32 hdr.h.toInt32 ≤ hdr.frameSize.toNat
  | readRGB _ => 3 * (rows hdr * columns hdr) ≤ hdr.frameSize.toNat
  | readDepth | readIR => 2 * (rows hdr * columns hdr) ≤ hdr.frameSize.toNat
  | micMonitor _ _ => hdr.frameSize = 1024
  | updateFromSHM _ => False

/-- What `k4w_shm_create` and `k4w_shm_write_frame` leave in a segment of three frames. -/
structure Made (segment : MappedBytes) : Prop where
  size : segment.size = totalBytes segment.header.frameSize
  fit : 3 * segment.header.frameSize.toNat < 2 ^ 32
  index : segment.header.writeIdx.toNat < 3

/-- The selected frame lies inside a segment that the daemon made. -/
theorem Made.slot_end {segment : MappedBytes} (hmade : Made segment) :
    segment.size = 40 + 3 * segment.header.frameSize.toNat ∧
      slotBefore segment.header.writeIdx * segment.header.frameSize.toNat +
        segment.header.frameSize.toNat ≤ 3 * segment.header.frameSize.toNat := by
  have hfit := hmade.fit
  constructor
  · rw [hmade.size, totalBytes, UInt32.toNat_mul, show k4wRingSize.toNat = 3 from rfl,
      Nat.mod_eq_of_lt (by omega), Nat.mul_comm]
    rfl
  · have hle := Nat.mul_le_mul_right segment.header.frameSize.toNat
      (slotBefore_lt segment.header.writeIdx)
    rwa [Nat.succ_mul] at hle

theorem Made.frameStart_eq {segment : MappedBytes} (hmade : Made segment) :
    frameStart segment.header =
      40 + slotBefore segment.header.writeIdx * segment.header.frameSize.toNat := by
  rw [frameStart, slotOffset_latestSlot hmade.index hmade.fit]
  rfl

theorem Made.streamFits {segment : MappedBytes} (hmade : Made segment)
    {stream : OpenNI.Stream} {state : OpenNI.LoopState} {acquired : Bool}
    (hserved : stream.copiedBytes segment.header.w.toInt32 segment.header.h.toInt32 ≤
      segment.header.frameSize.toNat) : StreamFits stream state acquired segment := by
  obtain ⟨hsize, hend⟩ := hmade.slot_end
  have hbytes : headerBytes = 40 := rfl
  refine ⟨by omega, fun _ _ _ _ _ _ => .inr ?_⟩
  rw [streamStart_eq hmade.index hmade.fit]
  omega

theorem Made.rgbFits {segment : MappedBytes} (hmade : Made segment)
    (copies : Int32 → Int32 → Nat → Bool)
    (hserved : 3 * (rows segment.header * columns segment.header) ≤
      segment.header.frameSize.toNat) :
    RgbFits copies segment.size segment.header := by
  intro _ hcolumns hrows
  obtain ⟨hsize, hend⟩ := hmade.slot_end
  have hfit := hmade.fit
  have hwidth := (columns_eq hcolumns).2
  have hline : columns segment.header ≤ rows segment.header * columns segment.header :=
    Nat.le_mul_of_pos_left _ hrows
  have hbytesPerLine : (segment.header.w * 3).toNat = 3 * columns segment.header := by
    rw [UInt32.toNat_mul, hwidth, show (3 : UInt32).toNat = 3 from rfl,
      Nat.mod_eq_of_lt (by omega), Nat.mul_comm]
  have hlines : (rows segment.header - 1) * (3 * columns segment.header) +
      3 * columns segment.header = 3 * (rows segment.header * columns segment.header) := by
    rw [← Nat.succ_mul, show (rows segment.header - 1).succ = rows segment.header by omega,
      Nat.mul_left_comm]
  rw [hbytesPerLine, hmade.frameStart_eq]
  omega

/-- Every pass over a segment that the daemon made for it stays inside the segment. -/
theorem Made.fits {segment : MappedBytes} (hmade : Made segment) {pass : Pass}
    (hserved : pass.Served segment.header) : pass.Fits segment := by
  obtain ⟨hsize, hend⟩ := hmade.slot_end
  have hfit := hmade.fit
  have hstart := hmade.frameStart_eq
  cases pass with
  | depthStream state acquired => exact hmade.streamFits hserved
  | colorStream state acquired => exact hmade.streamFits hserved
  | readRGB copies =>
      exact ⟨by omega, fun _ => ⟨by omega, hmade.rgbFits copies hserved⟩⟩
  | readDepth =>
      have harea : 2 * (rows segment.header * columns segment.header) ≤
        segment.header.frameSize.toNat := hserved
      refine ⟨by omega, fun _ => ⟨by omega, fun _ => .inr (by omega), fun hlarge => ?_⟩⟩
      omega
  | readIR =>
      have harea : 2 * (rows segment.header * columns segment.header) ≤
        segment.header.frameSize.toNat := hserved
      exact ⟨by omega, fun _ => ⟨by omega, .inr (by omega)⟩⟩
  | micMonitor lastSeq enabled =>
      have hframe : segment.header.frameSize = 1024 := hserved
      have hframeSize : segment.header.frameSize.toNat = 1024 := by
        rw [hframe]
        rfl
      have hmic := micStart_eq hmade.index
      have hmicBytes : Gui.micBytes = 1024 := rfl
      have hbytes : headerBytes = 40 := rfl
      rw [hframeSize] at hsize hend
      exact fun _ => ⟨by omega, fun _ => ⟨by omega, fun _ _ => by omega⟩⟩
  | updateFromSHM enabled => exact hserved.elim

end K4W.Shm
