import K4W.Shm.Segment

/-!
# Segment readers of the control window

`MainWindow::readRGB`, `readDepth`, and `readIR` select the frame that they turn
into an image; `MicMonitorThread::run` copies the samples of the latest period.
-/

namespace K4W.Gui

open K4W.Library.Ring
open K4W.Shm

/-! ## Images -/

/-- The pixels handed to an image conversion: the geometry and the bytes from a start. -/
structure PixelSource where
  width : UInt32
  height : UInt32
  start : Nat
  bytes : Nat → UInt8

/-- The part that the three image readers share; `none` is the empty `QImage`. -/
def selectPixels (mapping : Option Mapping) : Option PixelSource :=
  match mapping with
  | none => none
  | some mapping =>
      let hdr := mapping.hdr
      if hdr.magic ≠ k4wShmMagic then
        none
      else
        let idx := latestSlot hdr.writeIdx
        let start := slotOffset hdr idx
        some {
          width := hdr.w
          height := hdr.h
          start := start
          bytes := fun i => hdr.data (start + i) }

/-- `readRGB` maps `k4w_video`. -/
def readRGB (video : Option Mapping) : Option PixelSource :=
  selectPixels video

/-- `readDepth` maps `k4w_depth`. -/
def readDepth (depth : Option Mapping) : Option PixelSource :=
  selectPixels depth

/-- `readIR` maps `k4w_depth` as well. -/
def readIR (depth : Option Mapping) : Option PixelSource :=
  selectPixels depth

/-! ## The microphone monitor -/

/-- `K4W_AUDIO_SAMPLES` -/
def k4wAudioSamples : Int32 := 512

/-- `idx` of `MicMonitorThread::run`. -/
def micIdx (hdr : K4wShmHeader) : Int32 :=
  latestSlotInt hdr.writeIdx

/-- Offset in `data` of the copied samples, an `int` product. -/
def micStart (hdr : K4wShmHeader) : Int :=
  (micIdx hdr * k4wAudioSamples * 2).toInt

/-- Bytes copied by the monitor in every iteration: `K4W_AUDIO_SAMPLES * 2`. -/
def micBytes : Nat := 1024

/-- How an iteration of the monitor ends. -/
inductive MicOutcome where
  | disabled
  | noMapping
  | badMagic
  | notNew
  /-- The offset and the bytes copied from there; a byte before `data` has no value. -/
  | copied (start : Int) (bytes : List (Option UInt8))

/--
One iteration of `MicMonitorThread::run` up to the copy into `buf`: the new
`last_seq` and the outcome.
-/
def micIteration (lastSeq : Int32) (enabled : Bool) (mapping : Option Mapping) :
    Int32 × MicOutcome :=
  if !enabled then
    (lastSeq, .disabled)
  else
    match mapping with
    | none => (lastSeq, .noMapping)
    | some mapping =>
        let hdr := mapping.hdr
        if hdr.magic ≠ k4wShmMagic then
          (lastSeq, .badMagic)
        else if hdr.seq.toInt32 == lastSeq || hdr.seq.toInt32 < 1 then
          (lastSeq, .notNew)
        else
          let start := micStart hdr
          (hdr.seq.toInt32, .copied start ((List.range micBytes).map fun (i : Nat) =>
            if 0 ≤ start + i then some (hdr.data (start + i).toNat) else none))

end K4W.Gui
