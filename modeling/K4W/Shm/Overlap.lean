import K4W.Library.Machine
import K4W.Shm.LastFrames

/-!
# One writer and one reader, interleaved

The atomic steps of `k4w_shm_write_frame` and `k4w_shm_read_frame` on one
segment.  The writer copies byte by byte, stores the time, the write index, and
the sequence number; the reader loads the sequence number and the write index,
copies byte by byte, and stores the sequence number it loaded.

`calls`, `stored`, and in the reader's locals `requested` and the two counts are a
record of the run: the calls of the writer in order, how many of them had stored
`write_idx` at a point of the run, and the size that the reader was called with.
No step depends on them.
-/

namespace K4W.Shm.Overlap

open K4W.Library
open K4W.Library.Ring

/-- Where the writer stands, with its locals `wi` and, while copying, the bytes copied. -/
inductive WriterPoint where
  | idle
  | copying (frame : Frame) (wi : UInt32) (copied : Nat)
  | storeIdx (wi : UInt32)
  | storeSeq

/-- The reader's copy under way: `size`, `idx`, and `cur`, and the bytes copied to `out`. -/
structure Copy where
  /-- The argument `size` of the call. -/
  requested : UInt32
  size : Nat
  idx : UInt32
  cur : UInt32
  out : Nat → UInt8
  copied : Nat
  /-- Stores of `write_idx` before the reader loaded it. -/
  storedAtLoad : Nat
  /-- Stores of `write_idx` before the reader copied its last byte. -/
  storedAtLast : Nat

inductive ReaderPoint where
  | idle
  | loadIdx (out : Nat → UInt8) (size cur : UInt32)
  | copying (copy : Copy)

/-- A call of the reader that returned true. -/
structure Delivery where
  requested : UInt32
  size : Nat
  out : Nat → UInt8
  seq : UInt32
  storedAtLoad : Nat
  storedAtLast : Nat

structure State where
  hdr : K4wShmHeader
  writer : WriterPoint
  reader : ReaderPoint
  /-- The reader's `*seq`. -/
  lastSeq : UInt32
  calls : List Frame
  stored : Nat
  /-- Successful reads, first one first. -/
  deliveries : List Delivery

inductive Action where
  | callWrite (frame : Frame)
  | writer
  | callRead (out : Nat → UInt8) (size : UInt32)
  | reader

/-- The writer's memory accesses after the call. -/
def writerStep (state : State) : Option State :=
  let hdr := state.hdr
  match state.writer with
  | .idle => none
  | .copying frame wi copied =>
      if copied < (clipSize hdr frame.size).toNat then
        let offset := slotOffset hdr (wi % k4wRingSize) + copied
        some { state with
          hdr := { hdr with data := Function.update hdr.data offset (frame.data copied) }
          writer := .copying frame wi (copied + 1) }
      else
        some { state with
          hdr := { hdr with timestampMs := frame.nowMs }
          writer := .storeIdx wi }
  | .storeIdx wi =>
      some { state with
        hdr := { hdr with writeIdx := (wi + 1) % k4wRingSize }
        writer := .storeSeq
        stored := state.stored + 1 }
  | .storeSeq =>
      some { state with
        hdr := { hdr with seq := hdr.seq + 1 }
        writer := .idle }

/-- The reader's memory accesses after it loaded a new sequence number. -/
def readerStep (state : State) : Option State :=
  let hdr := state.hdr
  match state.reader with
  | .idle => none
  | .loadIdx out size cur =>
      some { state with
        reader := .copying {
          requested := size
          size := (clipSize hdr size).toNat
          idx := latestSlot hdr.writeIdx
          cur := cur
          out := out
          copied := 0
          storedAtLoad := state.stored
          storedAtLast := state.stored } }
  | .copying copy =>
      if copy.copied < copy.size then
        let byte := hdr.data (slotOffset hdr copy.idx + copy.copied)
        some { state with
          reader := .copying { copy with
            out := Function.update copy.out copy.copied byte
            copied := copy.copied + 1
            storedAtLast := state.stored } }
      else
        some { state with
          reader := .idle
          lastSeq := copy.cur
          deliveries := state.deliveries ++ [{
            requested := copy.requested
            size := copy.size
            out := copy.out
            seq := copy.cur
            storedAtLoad := copy.storedAtLoad
            storedAtLast := copy.storedAtLast }] }

/--
A call of the writer loads `write_idx`, which only the writer stores, and enters
the copy.  A call of the reader loads `seq`, and returns false on the number it
has already seen.
-/
def step (state : State) : Action → Option State
  | .callWrite frame =>
      match state.writer with
      | .idle => some { state with
          writer := .copying frame state.hdr.writeIdx 0
          calls := state.calls ++ [frame] }
      | _ => none
  | .writer => writerStep state
  | .callRead out size =>
      match state.reader with
      | .idle =>
          if state.hdr.seq = state.lastSeq then
            some state
          else
            some { state with reader := .loadIdx out size state.hdr.seq }
      | _ => none
  | .reader => readerStep state

/-- Nothing has been written or read, and the reader starts with `*seq = 0`. -/
def initial (hdr : K4wShmHeader) : State where
  hdr := hdr
  writer := .idle
  reader := .idle
  lastSeq := 0
  calls := []
  stored := 0
  deliveries := []

/-- A segment that `k4w_shm_create` made for frames whose three slots fit in `uint32_t`. -/
def Fresh (state : State) : Prop :=
  ∃ calls frameSize mapping w h bpp,
    3 * frameSize.toNat < 2 ^ 32 ∧ k4wShmCreate calls frameSize = .ok mapping ∧
      state = initial (mapping.hdr.withGeometry w h bpp)

def overlap : Machine State Action where
  Start := Fresh
  step := step

/-! ## Calls that nothing interrupts -/

/-- The writer's copy loop, from any byte on. -/
theorem reaches_copyLoop (state : State) (frame : Frame) (wi : UInt32)
    (remaining : Nat) {copied : Nat}
    (hcopied : copied + remaining = (clipSize state.hdr frame.size).toNat) :
    let base := slotOffset state.hdr (wi % k4wRingSize)
    let data := fun len => copyBlock state.hdr.data base frame.data len
    overlap.Reaches
      { state with
        hdr := { state.hdr with data := data copied }, writer := .copying frame wi copied }
      { state with
        hdr := { state.hdr with data := data (copied + remaining) }
        writer := .copying frame wi (copied + remaining) } := by
  intro base data
  induction remaining generalizing copied with
  | zero => exact Machine.Reaches.refl _
  | succ remaining ih =>
      have hnext : copied + 1 + remaining = (clipSize state.hdr frame.size).toNat := by omega
      have hlt : copied < (clipSize state.hdr frame.size).toNat := by omega
      have hrest := ih hnext
      rw [show copied + (remaining + 1) = copied + 1 + remaining by omega]
      refine (Machine.Reaches.single .writer ?_).trans hrest
      simp only [data, copyBlock_succ]
      simpa [overlap, step, writerStep, slotOffset, clipSize, base] using hlt

/-- An uninterrupted call of the writer has the effect of `k4w_shm_write_frame`. -/
theorem reaches_writeFrame {state : State} (hidle : state.writer = .idle) (frame : Frame) :
    overlap.Reaches state
      { state with
        hdr := writeFrame state.hdr frame
        calls := state.calls ++ [frame]
        stored := state.stored + 1 } := by
  let wi := state.hdr.writeIdx
  let size := (clipSize state.hdr frame.size).toNat
  let called := { state with calls := state.calls ++ [frame] }
  let copied := { called with
    hdr := { state.hdr with
      data := copyBlock state.hdr.data (slotOffset state.hdr (wi % k4wRingSize))
        frame.data size }
    writer := .copying frame wi size }
  let timed := { copied with
    hdr := { copied.hdr with timestampMs := frame.nowMs }
    writer := .storeIdx wi }
  let indexed := { timed with
    hdr := { timed.hdr with writeIdx := (wi + 1) % k4wRingSize }
    writer := .storeSeq
    stored := state.stored + 1 }
  have hcall : overlap.step state (.callWrite frame) =
      some { called with writer := .copying frame wi 0 } := by
    simp [overlap, step, hidle, called, wi]
  have hcopy : overlap.Reaches { called with writer := .copying frame wi 0 } copied := by
    have hloop := reaches_copyLoop called frame wi size (Nat.zero_add size)
    simpa [copied, called] using hloop
  have htime : overlap.step copied .writer = some timed := by
    simp [overlap, step, writerStep, copied, timed, clipSize, size]
  have hindex : overlap.step timed .writer = some indexed := rfl
  have hseq : overlap.step indexed .writer = some
      { state with
        hdr := writeFrame state.hdr frame
        calls := state.calls ++ [frame]
        stored := state.stored + 1 } := by
    rw [show state.stored + 1 = indexed.stored from rfl]
    simp [overlap, step, writerStep, indexed, timed, copied, called, writeFrame,
      k4wShmWriteFrame, hidle, wi, size]
  exact (Machine.Reaches.single _ hcall).trans (hcopy.trans
    ((Machine.Reaches.single _ htime).trans
      ((Machine.Reaches.single _ hindex).trans (Machine.Reaches.single _ hseq))))

/-- The reader's copy loop, from any byte on. -/
theorem reaches_readLoop (state : State) (copy : Copy) (hsame : copy.storedAtLast = state.stored)
    (remaining : Nat) {copied : Nat} (hcopied : copied + remaining = copy.size) :
    let source := fun i => state.hdr.data (slotOffset state.hdr copy.idx + i)
    let out := fun len => copyBlock copy.out 0 source len
    overlap.Reaches
      { state with reader := .copying { copy with out := out copied, copied := copied } }
      { state with
        reader := .copying {
          copy with out := out (copied + remaining), copied := copied + remaining } } := by
  intro source out
  induction remaining generalizing copied with
  | zero => exact Machine.Reaches.refl _
  | succ remaining ih =>
      have hnext : copied + 1 + remaining = copy.size := by omega
      have hlt : copied < copy.size := by omega
      have hrest := ih hnext
      rw [show copied + (remaining + 1) = copied + 1 + remaining by omega]
      refine (Machine.Reaches.single .reader ?_).trans hrest
      simp only [out, copyBlock_succ, Nat.zero_add]
      simp [overlap, step, readerStep, hlt, hsame, source]

/-- An uninterrupted call of the reader delivers what `k4w_shm_read_frame` returns. -/
theorem reaches_readFrame {state : State} (hidle : state.reader = .idle)
    (out : Nat → UInt8) (size : UInt32)
    (hnew : (k4wShmReadFrame state.hdr out size state.lastSeq).delivered = true) :
    let result := k4wShmReadFrame state.hdr out size state.lastSeq
    overlap.Reaches state
      { state with
        lastSeq := result.seq
        deliveries := state.deliveries ++ [{
          requested := size
          size := (clipSize state.hdr size).toNat
          out := result.out
          seq := result.seq
          storedAtLoad := state.stored
          storedAtLast := state.stored }] } := by
  have hseq : state.hdr.seq ≠ state.lastSeq := by
    intro heq
    simp [k4wShmReadFrame, heq] at hnew
  let copy : Copy := {
    requested := size
    size := (clipSize state.hdr size).toNat
    idx := latestSlot state.hdr.writeIdx
    cur := state.hdr.seq
    out := out
    copied := 0
    storedAtLoad := state.stored
    storedAtLast := state.stored }
  have hcall : overlap.step state (.callRead out size) =
      some { state with reader := .loadIdx out size state.hdr.seq } := by
    simp [overlap, step, hidle, hseq]
  have hload : overlap.step { state with reader := .loadIdx out size state.hdr.seq } .reader =
      some { state with reader := .copying copy } := rfl
  have hloop := reaches_readLoop state copy rfl copy.size (Nat.zero_add _)
  simp only [copyBlock_zero, Nat.zero_add] at hloop
  refine (Machine.Reaches.single _ hcall).trans ((Machine.Reaches.single _ hload).trans
    (hloop.trans (Machine.Reaches.single .reader ?_)))
  simp [overlap, step, readerStep, k4wShmReadFrame, hseq, hidle, copy]

end K4W.Shm.Overlap
