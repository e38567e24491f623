import K4W.Library.CInt
import K4W.Library.Machine
import K4W.Library.Ring

/-!
# The PipeWire video source

The statics of `pw_source.c` and the functions that share them.  The geometry
is `int` arithmetic; offsets into the frame buffer are those of the pointer
arithmetic, so they can lie outside the allocation.
-/

namespace K4W.PipeWire

open K4W.Library
open K4W.Library.CInt
open K4W.Library.Ring

/-- An allocation: its size, and the memory from its first byte on. -/
structure Buffer where
  size : Nat
  bytes : Int → UInt8

/-- `s_loop`, `s_context`, and `s_stream` are true when they are not null. -/
structure Source where
  loop : Bool
  context : Bool
  stream : Bool
  width : Int32
  height : Int32
  stride : Int32
  frameBuf : Option Buffer
  frameSize : Int32

/-- The bytes allocated for `s_frame_buf`. -/
def Source.allocated (source : Source) : Nat :=
  match source.frameBuf with
  | none => 0
  | some buffer => buffer.size

/-! ## Initialisation -/

/-- Which calls of `k4w_pw_source_init` succeed. -/
structure InitCalls where
  calloc : Bool
  threadLoopNew : Bool
  contextNew : Bool
  contextConnect : Bool
  streamNew : Bool
  streamConnect : Bool

/--
`k4w_pw_source_init`: its result and the statics it leaves.  Each failure path
resets the handles opened before it; none of them, and no check, looks at the
result of `calloc`.
-/
def k4wPwSourceInit (calls : InitCalls) (width height : Int32) : Int32 × Source :=
  let stride := width * 4
  let frameSize := stride * height
  let frameBuf := if calls.calloc then some ⟨toSizeT frameSize, fun _ => 0⟩ else none
  let connected := calls.threadLoopNew && calls.contextNew && calls.contextConnect &&
    calls.streamNew && calls.streamConnect
  let source := {
    loop := connected
    context := connected
    stream := connected
    width := width
    height := height
    stride := stride
    frameBuf := frameBuf
    frameSize := frameSize }
  (if connected then 0 else -1, source)

/-! ## The callbacks of the loop thread -/

/-- The size in a parsed `SPA_PARAM_Format`. -/
structure VideoSize where
  width : UInt32
  height : UInt32
deriving DecidableEq

/-- `on_param_changed`; `isFormat` tells whether the id is `SPA_PARAM_Format`. -/
def onParamChanged (source : Source) (isFormat : Bool) (param : Option VideoSize) : Source :=
  match isFormat, param with
  | true, some size =>
      let width := size.width.toInt32
      let height := size.height.toInt32
      let stride := width * 4
      { source with
        width := width, height := height, stride := stride, frameSize := stride * height }
  | _, _ => source

/-- A dequeued buffer, with the memory that `data` points to unless it is null. -/
structure StreamBuffer where
  data : Option (Nat → UInt8)

/-- The chunk set on a filled buffer; its offset and flags are zero. -/
structure Chunk where
  size : Int32
  stride : Int32

/-- What `on_process` queues. -/
inductive Processed where
  | noBuffer
  | queuedUnfilled
  | queued (bytes : Nat → UInt8) (chunk : Chunk)

/-- How many bytes the `memcpy` of `on_process` reads from `s_frame_buf`. -/
def processReads (source : Source) (dequeued : Option StreamBuffer) : Nat :=
  match dequeued, source.frameBuf with
  | some ⟨some _⟩, some _ => toSizeT source.frameSize
  | _, _ => 0

def onProcess (source : Source) (dequeued : Option StreamBuffer) : Processed :=
  match dequeued with
  | none => .noBuffer
  | some ⟨none⟩ => .queuedUnfilled
  | some ⟨some dst⟩ =>
      match source.frameBuf with
      | none => .queuedUnfilled
      | some buffer =>
          .queued
            (copyBlock dst 0 (fun i => buffer.bytes i) (processReads source dequeued))
            { size := source.frameSize, stride := source.stride }

/-! ## Pushing a frame -/

/-- One byte store: its offset in `s_frame_buf`, and the source offset unless it is zero. -/
structure Store where
  dst : Int
  src : Option Int
deriving DecidableEq

/-- The stores for one pixel, in the order B, G, R, X. -/
def pixelStores (dstRow srcRow : Int) (x : Int32) : List Store :=
  [⟨dstRow + (x * 4 + 0).toInt, some (srcRow + (x * 3 + 2).toInt)⟩,
    ⟨dstRow + (x * 4 + 1).toInt, some (srcRow + (x * 3 + 1).toInt)⟩,
    ⟨dstRow + (x * 4 + 2).toInt, some (srcRow + (x * 3 + 0).toInt)⟩,
    ⟨dstRow + (x * 4 + 3).toInt, none⟩]

/-- `cols` and `rows`: the smaller of the pushed and the negotiated size. -/
def clipInt (pushed negotiated : Int32) : Int32 :=
  if pushed < negotiated then pushed else negotiated

/-- The loops count an `int` from zero, so a negative bound means no iteration. -/
def rowStores (source : Source) (width : Int32) (y : Nat) : List Store :=
  let srcStride := width * 3
  let srcRow := (Int32.ofNat y * srcStride).toInt
  let dstRow := (Int32.ofNat y * source.stride).toInt
  (List.range (clipInt width source.width).toInt.toNat).flatMap
    (fun x => pixelStores dstRow srcRow (Int32.ofNat x))

/-- All byte stores of `k4w_pw_source_push_frame`, in program order. -/
def pushStores (source : Source) (width height : Int32) : List Store :=
  (List.range (clipInt height source.height).toInt.toNat).flatMap (rowStores source width)

/-- The memory after one store. -/
def applyStore (rgb : Int → UInt8) (bytes : Int → UInt8) (store : Store) : Int → UInt8 :=
  Function.update bytes store.dst (match store.src with
    | none => 0
    | some offset => rgb offset)

/-- `k4w_pw_source_push_frame`: its result and the statics it leaves. -/
def k4wPwSourcePushFrame (source : Source) (rgb : Int → UInt8) (width height : Int32) :
    Int32 × Source :=
  match source.stream, source.frameBuf with
  | true, some buffer =>
      let bytes := (pushStores source width height).foldl (applyStore rgb) buffer.bytes
      (0, { source with frameBuf := some { buffer with bytes := bytes } })
  | _, _ => (-1, source)

/-! ## Runs -/

inductive Action where
  | paramChanged (isFormat : Bool) (param : Option VideoSize)
  | pushFrame (rgb : Int → UInt8) (width height : Int32)
  | process (dequeued : Option StreamBuffer)

def step (source : Source) : Action → Option Source
  | .paramChanged isFormat param => some (onParamChanged source isFormat param)
  | .pushFrame rgb width height => some (k4wPwSourcePushFrame source rgb width height).2
  | .process _ => some source

/-- Statics after an initialisation that returned 0 for a positive size. -/
def Initialized (source : Source) : Prop :=
  ∃ calls width height, 0 < width.toInt ∧ 0 < height.toInt ∧
    4 * width.toInt * height.toInt < 2 ^ 31 ∧
      k4wPwSourceInit calls width height = (0, source)

def pwSource : Machine Source Action where
  Start := Initialized
  step := step

/-- The offsets in `s_frame_buf` that an action writes or reads. -/
def touched (source : Source) : Action → List Int
  | .paramChanged _ _ => []
  | .pushFrame _ width height =>
      if source.stream && source.frameBuf.isSome then
        (pushStores source width height).map Store.dst
      else
        []
  | .process dequeued => (List.range (processReads source dequeued)).map Nat.cast

end K4W.PipeWire
