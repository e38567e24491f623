import K4W.Library.CInt
import K4W.Shm.Segment

/-!
# The stream loops of the OpenNI plugin

`K4WDepthStream::mainloop` and `K4WColorStream::mainloop` map the segment anew
in every iteration, read each header field once, and raise a frame for every
sequence number they have not seen.  The two loops differ in the pixels they
copy and in the constants of the frame, which `Stream` collects.
-/

namespace K4W.OpenNI

open K4W.Library.CInt
open K4W.Library.Ring
open K4W.Shm

inductive PixelFormat where
  | depth1Mm
  | rgb888
deriving DecidableEq

inductive SensorType where
  | depth
  | color
deriving DecidableEq

/-- The fields of an `OniFrame` that the loops fill. -/
structure OniFrame where
  frameIndex : Int32
  pixelFormat : PixelFormat
  resolutionX : Int32
  resolutionY : Int32
  fps : Int32
  width : Int32
  height : Int32
  cropOriginX : Int32
  cropOriginY : Int32
  croppingEnabled : Bool
  sensorType : SensorType
  stride : Int32
  timestamp : UInt64
  data : Nat → UInt8

/-- What differs between the two loops. -/
structure Stream where
  pixelFormat : PixelFormat
  sensorType : SensorType
  /-- Bytes copied to the frame for a width and a height. -/
  copiedBytes : Int32 → Int32 → Nat
  stride : Int32 → Int32

/-- The copy loop counts pixels of two bytes up to the `int` product `w * h`. -/
def depthStream : Stream where
  pixelFormat := .depth1Mm
  sensorType := .depth
  copiedBytes := fun w h => 2 * (w * h).toInt.toNat
  stride := fun w => w * 2

/-- `memcpy` takes the `int` product `w * h * 3` as a `size_t`. -/
def colorStream : Stream where
  pixelFormat := .rgb888
  sensorType := .color
  copiedBytes := fun w h => toSizeT (w * h * 3)
  stride := fun w => w * 3

/-- The locals of the loop that outlive an iteration. -/
structure LoopState where
  lastSeq : Int32
  frameId : Int32
deriving DecidableEq

def LoopState.initial : LoopState where
  lastSeq := -1
  frameId := 0

/-- How an iteration ends. -/
inductive Outcome where
  | noMapping
  | badHeader
  | notNew
  | noGeometry
  | noFrame
  | raised (frame : OniFrame)

/-- `idx` of the loops. -/
def streamIdx (hdr : K4wShmHeader) : Int32 :=
  latestSlotInt hdr.writeIdx

/-- Offset in `data` of `raw` and `rgb`: the signed index is converted to `uint32_t`. -/
def streamStart (hdr : K4wShmHeader) : Nat :=
  slotOffset hdr (streamIdx hdr).toUInt32

/-- The gate that lets only new frames through. -/
def notNew (state : LoopState) (hdr : K4wShmHeader) : Bool :=
  hdr.seq.toInt32 == state.lastSeq || hdr.seq.toInt32 < 1

/-- The frame an iteration raises, built in the buffer of the acquired frame. -/
def fillFrame (stream : Stream) (frameId : Int32) (hdr : K4wShmHeader)
    (buffer : Nat → UInt8) : OniFrame :=
  let w := hdr.w.toInt32
  let h := hdr.h.toInt32
  { frameIndex := frameId
    pixelFormat := stream.pixelFormat
    resolutionX := w
    resolutionY := h
    fps := 30
    width := w
    height := h
    cropOriginX := 0
    cropOriginY := 0
    croppingEnabled := false
    sensorType := stream.sensorType
    stride := stream.stride w
    timestamp := hdr.timestampMs * 1000
    data := copyBlock buffer 0 (fun i => hdr.data (streamStart hdr + i))
      (stream.copiedBytes w h) }

/--
One iteration of `mainloop`.  `mapping` is the result of `shm_open_ro`, and
`acquired` is the buffer of the frame that `acquireFrame` returns, if any.
-/
def mainloopIteration (stream : Stream) (state : LoopState) (mapping : Option Mapping)
    (acquired : Option (Nat → UInt8)) : LoopState × Outcome :=
  match mapping with
  | none => (state, .noMapping)
  | some mapping =>
      let hdr := mapping.hdr
      if hdr.magic ≠ k4wShmMagic ∨ mapping.size < headerBytes then
        (state, .badHeader)
      else if notNew state hdr then
        (state, .notNew)
      else
        let seen := { state with lastSeq := hdr.seq.toInt32 }
        if hdr.w.toInt32 = 0 ∨ hdr.h.toInt32 = 0 then
          (seen, .noGeometry)
        else
          match acquired with
          | none => (seen, .noFrame)
          | some buffer =>
              ({ seen with frameId := state.frameId + 1 },
                .raised (fillFrame stream state.frameId hdr buffer))

end K4W.OpenNI
