import K4W.Library.Machine
import K4W.Shm.LastFrames

/-!
# At-most-once delivery

The writer and the reader of `shm.c` with each `memcpy` as one step.  The write
index and the sequence number are stored and loaded separately, so a reader can
take the slot of a write whose number it has not seen, and take it once more
when it sees the number.

`frames`, the counts of steps, and `filled` are a record of the run: the writes
are numbered from 1, and `filled` is the write that last filled each slot.
-/

namespace K4W.Shm.Deliveries

open K4W.Library
open K4W.Library.Ring

/-- The next step of the writer, with its arguments and its local `wi`. -/
inductive WriterPoint where
  | idle
  | copy (frame : Frame) (wi : UInt32)
  | storeTime (frame : Frame) (wi : UInt32)
  | storeIdx (wi : UInt32)
  | storeSeq

/-- The next step of the reader, with its locals. -/
inductive ReaderPoint where
  | idle
  | loadIdx (out : Nat → UInt8) (size cur : UInt32)
  /-- `chosen` writes had stored `write_idx` when it was loaded. -/
  | copy (out : Nat → UInt8) (size cur idx : UInt32) (chosen : Nat)
  | storeSeq (out : Nat → UInt8) (cur : UInt32) (write : Nat)

/-- A successful read, and the write that had filled the slot it copied. -/
structure Delivery where
  out : Nat → UInt8
  write : Nat

structure State where
  hdr : K4wShmHeader
  writer : WriterPoint
  reader : ReaderPoint
  /-- The reader's `*seq`. -/
  lastSeq : UInt32
  frames : List Frame
  copied : Nat
  stored : Nat
  published : Nat
  filled : Nat → Nat
  deliveries : List Delivery

inductive Action where
  | callWrite (frame : Frame)
  | writer
  | callRead (out : Nat → UInt8) (size : UInt32)
  | reader

/-- The steps of `k4w_shm_write_frame` after the call. -/
def writerStep (state : State) : Option State :=
  let hdr := state.hdr
  match state.writer with
  | .idle => none
  | .copy frame wi =>
      let idx := wi % k4wRingSize
      some { state with
        hdr := { hdr with
          data := copyBlock hdr.data (slotOffset hdr idx) frame.data
            (clipSize hdr frame.size).toNat }
        writer := .storeTime frame wi
        copied := state.copied + 1
        filled := Function.update state.filled idx.toNat (state.copied + 1) }
  | .storeTime frame wi =>
      some { state with
        hdr := { hdr with timestampMs := frame.nowMs }
        writer := .storeIdx wi }
  | .storeIdx wi =>
      some { state with
        hdr := { hdr with writeIdx := (wi + 1) % k4wRingSize }
        writer := .storeSeq
        stored := state.stored + 1 }
  | .storeSeq =>
      some { state with
        hdr := { hdr with seq := hdr.seq + 1 }
        writer := .idle
        published := state.published + 1 }

/-- The steps of `k4w_shm_read_frame` after it has loaded a new sequence number. -/
def readerStep (state : State) : Option State :=
  let hdr := state.hdr
  match state.reader with
  | .idle => none
  | .loadIdx out size cur =>
      some { state with
        reader := .copy out (clipSize hdr size) cur (latestSlot hdr.writeIdx) state.stored }
  | .copy out size cur idx _ =>
      some { state with
        reader := .storeSeq
          (copyBlock out 0 (fun i => hdr.data (slotOffset hdr idx + i)) size.toNat) cur
          (state.filled idx.toNat) }
  | .storeSeq out cur write =>
      some { state with
        reader := .idle
        lastSeq := cur
        deliveries := state.deliveries ++ [{ out := out, write := write }] }

/--
A call of the writer loads `write_idx`.  A call of the reader loads `seq`, and
returns false on the number it has already seen.
-/
def step (state : State) : Action → Option State
  | .callWrite frame =>
      match state.writer with
      | .idle => some { state with
          writer := .copy frame state.hdr.writeIdx
          frames := state.frames ++ [frame] }
      | _ => none
  | .writer => writerStep state
  | .callRead out size =>
      match state.reader with
      | .idle =>
          if state.hdr.seq = state.lastSeq then some state
          else some { state with reader := .loadIdx out size state.hdr.seq }
      | _ => none
  | .reader => readerStep state

def initial (hdr : K4wShmHeader) : State where
  hdr := hdr
  writer := .idle
  reader := .idle
  lastSeq := 0
  frames := []
  copied := 0
  stored := 0
  published := 0
  filled := fun _ => 0
  deliveries := []

/-- A segment as `k4w_shm_create` leaves it. -/
def shared : Machine State Action where
  Start state := ∃ calls frameSize mapping,
    k4wShmCreate calls frameSize = .ok mapping ∧ state = initial mapping.hdr
  step := step

/-- No write is delivered twice. -/
def AtMostOnce (state : State) : Prop :=
  (state.deliveries.map Delivery.write).Nodup

/-- Fewer than `2 ^ 32` writes are made. -/
def FewWrites (state : State) : Action → Prop
  | .callWrite _ => state.frames.length + 1 < 2 ^ 32
  | _ => True

instance (state : State) : (action : Action) → Decidable (FewWrites state action)
  | .callWrite _ => inferInstanceAs (Decidable (_ < _))
  | .writer | .callRead _ _ | .reader => .isTrue trivial

/-- The writer has stored `write_idx` and not yet `seq`. -/
def WriterPoint.betweenStores : WriterPoint → Bool
  | .storeSeq => true
  | _ => false

/-- The slot that the writer fills in its next step. -/
def WriterPoint.filling : WriterPoint → Option UInt32
  | .copy _ wi => some (wi % k4wRingSize)
  | _ => none

/-- The sequence number for which the reader is about to load `write_idx`. -/
def ReaderPoint.loading : ReaderPoint → Option UInt32
  | .loadIdx _ _ cur => some cur
  | _ => none

/-- The slot that the reader has chosen and not copied yet. -/
def ReaderPoint.chosenSlot : ReaderPoint → Option UInt32
  | .copy _ _ _ idx _ => some idx
  | _ => none

/--
The reader loads `write_idx` as the write with the number it has seen stored it,
and the writer does not fill a slot that the reader has chosen and not copied.
-/
def ReadsPublished (state : State) : Action → Prop
  | .reader =>
      state.reader.loading = none ∨
        (state.reader.loading = some state.hdr.seq ∧ state.writer.betweenStores = false)
  | .writer => state.writer.filling = none ∨ state.writer.filling ≠ state.reader.chosenSlot
  | _ => True

instance (state : State) : (action : Action) → Decidable (ReadsPublished state action)
  | .reader | .writer => inferInstanceAs (Decidable (_ ∨ _))
  | .callWrite _ | .callRead _ _ => .isTrue trivial

/-! ## The writer -/

/-- How far the counts of the writer's steps are apart at its points. -/
def WriterPhase (state : State) : Prop :=
  match state.writer with
  | .idle =>
      state.frames.length = state.copied ∧ state.copied = state.stored ∧
        state.stored = state.published
  | .copy _ wi =>
      wi = state.hdr.writeIdx ∧ state.frames.length = state.copied + 1 ∧
        state.copied = state.stored ∧ state.stored = state.published
  | .storeTime _ wi | .storeIdx wi =>
      wi = state.hdr.writeIdx ∧ state.frames.length = state.copied ∧
        state.copied = state.stored + 1 ∧ state.stored = state.published
  | .storeSeq =>
      state.frames.length = state.copied ∧ state.copied = state.stored ∧
        state.stored = state.published + 1

structure WriterInvariant (state : State) : Prop where
  few : state.frames.length < 2 ^ 32
  phase : WriterPhase state
  writeIdx : state.hdr.writeIdx.toNat = state.stored % 3
  seq : state.hdr.seq.toNat = state.published
  /-- The last three writes are in the slots of their numbers. -/
  filled : ∀ number, 1 ≤ number → number ≤ state.copied → state.copied < number + 3 →
    state.filled ((number - 1) % 3) = number

namespace WriterInvariant

variable {state : State}

theorem published_le (hinv : WriterInvariant state) : state.published ≤ state.stored := by
  have hphase := hinv.phase
  unfold WriterPhase at hphase
  split at hphase <;> omega

theorem stored_le (hinv : WriterInvariant state) :
    state.stored ≤ state.copied ∧ state.copied ≤ state.stored + 1 ∧
      state.copied ≤ state.frames.length := by
  have hphase := hinv.phase
  unfold WriterPhase at hphase
  split at hphase <;> omega

theorem writeIdx_lt (hinv : WriterInvariant state) : state.hdr.writeIdx.toNat < 3 := by
  rw [hinv.writeIdx]
  exact Nat.mod_lt _ (by decide)

/-- The slot of the write that has last stored `write_idx`. -/
theorem latestSlot_stored (hinv : WriterInvariant state) (hpos : 1 ≤ state.stored) :
    (latestSlot state.hdr.writeIdx).toNat = (state.stored - 1) % 3 := by
  rw [latestSlot_toNat hinv.writeIdx_lt, hinv.writeIdx, slot_back (by decide) hpos]

/-- `write_idx` is that of the write with the published number exactly outside the stores. -/
theorem stored_eq_published (hinv : WriterInvariant state)
    (houtside : state.writer.betweenStores = false) : state.stored = state.published := by
  have hphase := hinv.phase
  unfold WriterPhase at hphase
  split at hphase
  case h_5 hpoint =>
      rw [hpoint] at houtside
      cases houtside
  all_goals omega

end WriterInvariant

/-- All that a step of the writer can do to what the reader sees. -/
theorem writerStep_cases {state next : State} (hinv : WriterInvariant state)
    (hstep : writerStep state = some next) :
    WriterInvariant next ∧ next.reader = state.reader ∧ next.lastSeq = state.lastSeq ∧
      next.deliveries = state.deliveries ∧ next.frames = state.frames ∧
      state.published ≤ next.published ∧ state.stored ≤ next.stored ∧
      (next.filled = state.filled ∨ ∃ idx, state.writer.filling = some idx ∧
        next.filled = Function.update state.filled idx.toNat (state.copied + 1)) := by
  have hphase := hinv.phase
  unfold WriterPhase at hphase
  unfold writerStep at hstep
  cases hwriter : state.writer with
  | idle =>
      rw [hwriter] at hstep
      cases hstep
  | copy frame wi =>
      rw [hwriter] at hstep hphase
      cases hstep
      obtain ⟨rfl, hframes, hcopied, hstored⟩ := hphase
      have hslot := writeIdx_slot hinv.writeIdx_lt
      rw [hinv.writeIdx] at hslot
      refine ⟨⟨hinv.few, ⟨rfl, hframes, congrArg (· + 1) hcopied, hstored⟩, hinv.writeIdx, hinv.seq, ?_⟩,
        rfl, rfl, rfl, rfl, Nat.le_refl _, Nat.le_refl _, .inr ⟨_, rfl, rfl⟩⟩
      intro number hpos hle hrecent
      dsimp only at hle hrecent ⊢
      rw [hslot]
      rcases Nat.lt_or_ge state.copied number with hnew | hold
      · have hnumber : number = state.copied + 1 := by omega
        rw [hnumber, Nat.add_sub_cancel, hcopied, Function.update_self]
      · rw [Function.update_of_ne, hinv.filled number hpos hold (by omega)]
        rw [← hcopied]
        exact slot_ne_of_lt (by omega) (by omega)
  | storeTime frame wi =>
      rw [hwriter] at hstep hphase
      cases hstep
      exact ⟨⟨hinv.few, hphase, hinv.writeIdx, hinv.seq, hinv.filled⟩,
        rfl, rfl, rfl, rfl, Nat.le_refl _, Nat.le_refl _, .inl rfl⟩
  | storeIdx wi =>
      rw [hwriter] at hstep hphase
      cases hstep
      obtain ⟨rfl, hframes, hcopied, hstored⟩ := hphase
      refine ⟨⟨hinv.few, ⟨hframes, hcopied, congrArg (· + 1) hstored⟩, ?_, hinv.seq, hinv.filled⟩,
        rfl, rfl, rfl, rfl, Nat.le_refl _, Nat.le_succ _, .inl rfl⟩
      dsimp only
      rw [writeIdx_next hinv.writeIdx_lt, hinv.writeIdx]
      omega
  | storeSeq =>
      rw [hwriter] at hstep hphase
      cases hstep
      obtain ⟨hframes, hcopied, hstored⟩ := hphase
      refine ⟨⟨hinv.few, ⟨hframes, hcopied, hstored⟩, hinv.writeIdx, ?_, hinv.filled⟩,
        rfl, rfl, rfl, rfl, Nat.le_succ _, Nat.le_refl _, .inl rfl⟩
      have hfew := hinv.few
      dsimp only
      rw [UInt32.toNat_add, hinv.seq, UInt32.toNat_one]
      omega

theorem writerInvariant_callWrite {state next : State} {frame : Frame}
    (hinv : WriterInvariant state) (hfew : FewWrites state (.callWrite frame))
    (hstep : step state (.callWrite frame) = some next) :
    WriterInvariant next ∧ next.reader = state.reader ∧ next.lastSeq = state.lastSeq ∧
      next.deliveries = state.deliveries ∧ next.published = state.published ∧
      next.stored = state.stored ∧ next.filled = state.filled := by
  have hphase := hinv.phase
  unfold WriterPhase at hphase
  simp only [step] at hstep
  split at hstep
  case h_1 hidle =>
      rw [hidle] at hphase
      cases hstep
      obtain ⟨hframes, hcopied, hstored⟩ := hphase
      have hlength : (state.frames ++ [frame]).length = state.frames.length + 1 :=
        List.length_append
      refine ⟨⟨?_, ⟨rfl, ?_, hcopied, hstored⟩, hinv.writeIdx, hinv.seq, hinv.filled⟩,
        rfl, rfl, rfl, rfl, rfl, rfl⟩
      · rw [hlength]
        exact hfew
      · rw [hlength, hframes]
  case h_2 => cases hstep

/-! ## The reader -/

/-- What the reader has chosen, whatever it has chosen it for. -/
def ReaderPhase (state : State) : Prop :=
  match state.reader with
  | .idle => True
  | .loadIdx _ _ cur => state.lastSeq.toNat < cur.toNat ∧ cur.toNat ≤ state.published
  | .copy _ _ cur idx chosen =>
      state.lastSeq.toNat < cur.toNat ∧ cur.toNat ≤ chosen ∧ chosen ≤ state.stored ∧
        cur.toNat ≤ state.published ∧ idx.toNat = (chosen - 1) % 3
  | .storeSeq _ cur _ => state.lastSeq.toNat < cur.toNat ∧ cur.toNat ≤ state.published

structure Invariant (state : State) : Prop extends WriterInvariant state where
  seen : state.lastSeq.toNat ≤ state.published
  reader : ReaderPhase state

/-- The reader's part survives whatever leaves its locals alone and counts upwards. -/
theorem readerPhase_frame {state next : State} (hreader : next.reader = state.reader)
    (hlast : next.lastSeq = state.lastSeq) (hpublished : state.published ≤ next.published)
    (hstored : state.stored ≤ next.stored) (hphase : ReaderPhase state) : ReaderPhase next := by
  unfold ReaderPhase at hphase ⊢
  rw [hreader, hlast]
  split
  · trivial
  · rename_i hpoint
    rw [hpoint] at hphase
    exact ⟨hphase.1, le_trans hphase.2 hpublished⟩
  · rename_i hpoint
    rw [hpoint] at hphase
    exact ⟨hphase.1, hphase.2.1, le_trans hphase.2.2.1 hstored,
      le_trans hphase.2.2.2.1 hpublished, hphase.2.2.2.2⟩
  · rename_i hpoint
    rw [hpoint] at hphase
    exact ⟨hphase.1, le_trans hphase.2 hpublished⟩

/-- The slot chosen now is filled by the write that has last stored `write_idx`. -/
theorem Invariant.filled_latestSlot {state : State} (hinv : Invariant state)
    (hpos : 1 ≤ state.stored) :
    state.filled (latestSlot state.hdr.writeIdx).toNat = state.stored := by
  obtain ⟨hle, hge, -⟩ := hinv.stored_le
  rw [hinv.latestSlot_stored hpos]
  exact hinv.filled state.stored hpos hle (by omega)

theorem invariant_reader {state next : State} (hinv : Invariant state)
    (hstep : readerStep state = some next) : Invariant next := by
  have hphase := hinv.reader
  have hle := hinv.published_le
  unfold ReaderPhase at hphase
  unfold readerStep at hstep
  cases hreader : state.reader with
  | idle =>
      rw [hreader] at hstep
      cases hstep
  | loadIdx out size cur =>
      rw [hreader] at hstep hphase
      cases hstep
      obtain ⟨hnew, hseen⟩ := hphase
      refine ⟨⟨hinv.few, hinv.phase, hinv.writeIdx, hinv.seq, hinv.filled⟩, hinv.seen,
        hnew, by omega, Nat.le_refl _, hseen, ?_⟩
      exact hinv.latestSlot_stored (by omega)
  | copy out size cur idx chosen =>
      rw [hreader] at hstep hphase
      cases hstep
      obtain ⟨hnew, -, -, hseen, -⟩ := hphase
      exact ⟨⟨hinv.few, hinv.phase, hinv.writeIdx, hinv.seq, hinv.filled⟩, hinv.seen,
        hnew, hseen⟩
  | storeSeq out cur write =>
      rw [hreader] at hstep hphase
      cases hstep
      exact ⟨⟨hinv.few, hinv.phase, hinv.writeIdx, hinv.seq, hinv.filled⟩, hphase.2, trivial⟩

theorem invariant_step {state next : State} {action : Action} (hinv : Invariant state)
    (hfew : FewWrites state action) (hstep : step state action = some next) :
    Invariant next := by
  cases action with
  | callWrite frame =>
      obtain ⟨hwriter, hreader, hlast, -, hpublished, hstored, -⟩ :=
        writerInvariant_callWrite hinv.toWriterInvariant hfew hstep
      refine ⟨hwriter, ?_, readerPhase_frame hreader hlast (le_of_eq hpublished.symm)
        (le_of_eq hstored.symm) hinv.reader⟩
      rw [hlast, hpublished]
      exact hinv.seen
  | writer =>
      obtain ⟨hwriter, hreader, hlast, -, -, hpublished, hstored, -⟩ :=
        writerStep_cases hinv.toWriterInvariant hstep
      refine ⟨hwriter, ?_, readerPhase_frame hreader hlast hpublished hstored hinv.reader⟩
      rw [hlast]
      exact le_trans hinv.seen hpublished
  | callRead out size =>
      have hphase := hinv.reader
      simp only [step] at hstep
      split at hstep
      case h_1 hidle =>
          split at hstep
          case isTrue =>
              cases hstep
              exact hinv
          case isFalse hnew =>
              cases hstep
              have hne : state.lastSeq.toNat ≠ state.hdr.seq.toNat :=
                fun heq => hnew (UInt32.toNat_inj.mp heq.symm)
              have hseen := hinv.seen
              have hseq := hinv.seq
              have hlt : state.lastSeq.toNat < state.hdr.seq.toNat := by omega
              exact ⟨⟨hinv.few, hinv.phase, hinv.writeIdx, hinv.seq, hinv.filled⟩, hinv.seen,
                hlt, le_of_eq hseq⟩
      case h_2 => cases hstep
  | reader => exact invariant_reader hinv hstep

theorem invariant_initial (hdr : K4wShmHeader) (hidx : hdr.writeIdx = 0) (hseq : hdr.seq = 0) :
    Invariant (initial hdr) := by
  refine ⟨⟨Nat.two_pow_pos 32, ⟨rfl, rfl, rfl⟩, ?_, ?_, ?_⟩, Nat.le_refl 0, trivial⟩
  · rw [initial, hidx]
    rfl
  · rw [initial, hseq]
    rfl
  · intro number hpos hle
    exact absurd (le_trans hpos hle) (Nat.not_succ_le_zero 0)

theorem invariant_start {state : State} (hstart : shared.Start state) : Invariant state := by
  obtain ⟨calls, frameSize, mapping, hcreate, rfl⟩ := hstart
  rw [k4wShmCreate_ok hcreate]
  exact invariant_initial _ rfl rfl

/-! ## Deliveries of published writes -/

/-- The write that the reader is about to deliver has the number it has seen. -/
def DeliversSeen (state : State) : Prop :=
  match state.reader with
  | .copy _ _ cur idx _ => state.filled idx.toNat = cur.toNat
  | .storeSeq _ cur write => write = cur.toNat
  | _ => True

structure Once (state : State) : Prop extends Invariant state where
  delivers : DeliversSeen state
  delivered : ∀ delivery ∈ state.deliveries, delivery.write ≤ state.lastSeq.toNat
  once : AtMostOnce state

/-- A step of the writer that leaves the chosen slot alone. -/
theorem deliversSeen_frame {state next : State} (hreader : next.reader = state.reader)
    (hfilled : next.filled = state.filled ∨ ∃ idx write, state.reader.chosenSlot ≠ some idx ∧
      next.filled = Function.update state.filled idx.toNat write)
    (hdelivers : DeliversSeen state) : DeliversSeen next := by
  unfold DeliversSeen at hdelivers ⊢
  rw [hreader]
  cases hpoint : state.reader with
  | idle | loadIdx => trivial
  | storeSeq out cur write =>
      rw [hpoint] at hdelivers
      exact hdelivers
  | copy out size cur idx chosen =>
      rw [hpoint] at hdelivers
      rcases hfilled with hsame | ⟨slot, write, hother, hupdate⟩
      · dsimp only
        rw [hsame]
        exact hdelivers
      · have hne : idx.toNat ≠ slot.toNat := by
          intro heq
          rw [hpoint] at hother
          exact hother (congrArg some (UInt32.toNat_inj.mp heq))
        dsimp only
        rw [hupdate, Function.update_of_ne hne]
        exact hdelivers

theorem once_reader {state next : State} (honce : Once state)
    (hreads : ReadsPublished state .reader) (hstep : readerStep state = some next) :
    Once next := by
  have hinv := invariant_reader honce.toInvariant hstep
  have hphase := honce.reader
  have hdelivers := honce.delivers
  unfold ReaderPhase at hphase
  unfold DeliversSeen at hdelivers
  unfold readerStep at hstep
  cases hreader : state.reader with
  | idle =>
      rw [hreader] at hstep
      cases hstep
  | loadIdx out size cur =>
      rw [hreader] at hstep hphase
      cases hstep
      rcases hreads with hnone | ⟨hcur, houtside⟩
      · rw [hreader] at hnone
        cases hnone
      · rw [hreader] at hcur
        have hcur : cur = state.hdr.seq := Option.some.inj hcur
        have hstored := honce.stored_eq_published houtside
        have hseq := honce.seq
        refine ⟨hinv, ?_, honce.delivered, honce.once⟩
        have hfilled := honce.toInvariant.filled_latestSlot (by omega)
        exact hfilled.trans (by rw [hcur, hseq, hstored])
  | copy out size cur idx chosen =>
      rw [hreader] at hstep hdelivers
      cases hstep
      exact ⟨hinv, hdelivers, honce.delivered, honce.once⟩
  | storeSeq out cur write =>
      rw [hreader] at hstep hphase hdelivers
      cases hstep
      have hwrite : write = cur.toNat := hdelivers
      refine ⟨hinv, trivial, ?_, ?_⟩
      · intro delivery hmem
        rcases List.mem_append.mp hmem with hold | hnew
        · exact le_trans (honce.delivered delivery hold) (le_of_lt hphase.1)
        · rw [List.mem_singleton.mp hnew, hwrite]
      · rw [AtMostOnce, List.map_append, List.map_singleton, List.nodup_append]
        refine ⟨honce.once, List.nodup_singleton _, ?_⟩
        intro first hfirst second hsecond heq
        obtain ⟨delivery, hmem, rfl⟩ := List.mem_map.mp hfirst
        rw [List.mem_singleton.mp hsecond] at heq
        have hsame : delivery.write = write := heq
        have hold := honce.delivered delivery hmem
        omega

theorem once_step {state next : State} {action : Action} (honce : Once state)
    (hfew : FewWrites state action) (hreads : ReadsPublished state action)
    (hstep : step state action = some next) : Once next := by
  have hinv := invariant_step honce.toInvariant hfew hstep
  cases action with
  | callWrite frame =>
      obtain ⟨-, hreader, hlast, hdeliveries, -, -, hfilled⟩ :=
        writerInvariant_callWrite honce.toWriterInvariant hfew hstep
      refine ⟨hinv, deliversSeen_frame hreader (.inl hfilled) honce.delivers, ?_, ?_⟩
      · rw [hdeliveries, hlast]
        exact honce.delivered
      · rw [AtMostOnce, hdeliveries]
        exact honce.once
  | writer =>
      obtain ⟨-, hreader, hlast, hdeliveries, -, -, -, hfilled⟩ :=
        writerStep_cases honce.toWriterInvariant hstep
      refine ⟨hinv, deliversSeen_frame hreader ?_ honce.delivers, ?_, ?_⟩
      · rcases hfilled with hsame | ⟨idx, hfilling, hupdate⟩
        · exact .inl hsame
        · rcases hreads with hnone | hother
          · rw [hfilling] at hnone
            cases hnone
          · rw [hfilling] at hother
            exact .inr ⟨idx, _, hother.symm, hupdate⟩
      · rw [hdeliveries, hlast]
        exact honce.delivered
      · rw [AtMostOnce, hdeliveries]
        exact honce.once
  | callRead out size =>
      simp only [step] at hstep
      split at hstep
      case h_1 hidle =>
          split at hstep <;> cases hstep
          · exact honce
          · exact ⟨hinv, trivial, honce.delivered, honce.once⟩
      case h_2 => cases hstep
  | reader => exact once_reader honce hreads hstep

/-- A run whose reads take what they have seen published delivers every write at most once. -/
theorem atMostOnce_of_readsPublished {first last : State} {trace : List (State × Action)}
    (hstart : shared.Start first) (hrun : shared.Run first trace last)
    (hfew : Machine.Meets FewWrites trace) (hreads : Machine.Meets ReadsPublished trace) :
    AtMostOnce last := by
  have hfirst : Once first := by
    have hinv := invariant_start hstart
    obtain ⟨calls, frameSize, mapping, -, rfl⟩ := hstart
    exact ⟨hinv, trivial, nofun, List.nodup_nil⟩
  let both (state : State) (action : Action) : Prop :=
    FewWrites state action ∧ ReadsPublished state action
  have hboth : Machine.Meets both trace :=
    fun entry hentry => ⟨hfew entry hentry, hreads entry hentry⟩
  exact (hrun.preserves hboth hfirst fun honce hmeets hstep =>
    once_step honce hmeets.1 hmeets.2 hstep).once

/-- A segment for frames of one byte. -/
def byteSegment : K4wShmHeader :=
  { zeroHeader with magic := k4wShmMagic, frameSize := 1 }

theorem start_byteSegment : shared.Start (initial byteSegment) :=
  ⟨⟨true, true, true⟩, 1, ⟨totalBytes 1, byteSegment⟩, rfl, rfl⟩

def byteFrame : Frame where
  data := fun _ => 7
  size := 1
  nowMs := 0

/-- A call of the writer up to its store of `write_idx`. -/
def writeUpToIdx : List Action :=
  [.callWrite byteFrame, .writer, .writer, .writer]

def readCall : List Action :=
  [.callRead (fun _ => 0) 1, .reader, .reader, .reader]

/-- Two writes, each with a read after it. -/
theorem atMostOnce_twoReads : ∃ last,
    shared.play (initial byteSegment) (writeUpToIdx ++ [.writer] ++ readCall ++ writeUpToIdx ++
      [.writer] ++ readCall) = some last ∧ last.deliveries.length = 2 ∧ AtMostOnce last := by
  obtain ⟨last, hplay, hcount⟩ : ∃ last,
      shared.play (initial byteSegment) (writeUpToIdx ++ [.writer] ++ readCall ++ writeUpToIdx ++
        [.writer] ++ readCall) = some last ∧ last.deliveries.length = 2 := ⟨_, rfl, rfl⟩
  exact ⟨last, hplay, hcount, atMostOnce_of_readsPublished start_byteSegment
    (Machine.run_of_play hplay) (by decide) (by decide)⟩

/-- A read between the two stores of the second write, and one after them. -/
theorem not_atMostOnce_of_earlyRead :
    ¬ ∀ first last trace, shared.Start first → shared.Run first trace last →
      Machine.Meets FewWrites trace → AtMostOnce last := by
  intro hall
  let actions := writeUpToIdx ++ [.writer] ++ writeUpToIdx ++ readCall ++ [.writer] ++ readCall
  obtain ⟨last, hplay, hwrites⟩ : ∃ last, shared.play (initial byteSegment) actions = some last ∧
      last.deliveries.map Delivery.write = [2, 2] := ⟨_, rfl, rfl⟩
  have honce := hall _ last _ start_byteSegment (Machine.run_of_play hplay) (by decide)
  rw [AtMostOnce, hwrites] at honce
  revert honce
  decide

/-! ## Nothing weaker is enough -/

/-- A call of the reader delivers the write that has last stored `write_idx`. -/
theorem reaches_delivery {state : State} (hinv : Invariant state) (hidle : state.reader = .idle)
    (houtside : state.writer.betweenStores = false) (hnew : state.lastSeq.toNat < state.stored) :
    ∃ last delivery, shared.Reaches state last ∧ delivery.write = state.stored ∧
      last.deliveries = state.deliveries ++ [delivery] := by
  have hseq : state.hdr.seq ≠ state.lastSeq := by
    intro heq
    have hpublished := hinv.seq
    have hstored := hinv.stored_eq_published houtside
    rw [heq] at hpublished
    omega
  let out : Nat → UInt8 := fun _ => 0
  let idx := latestSlot state.hdr.writeIdx
  let called := { state with reader := .loadIdx out 0 state.hdr.seq }
  let chosen := { state with
    reader := .copy out (clipSize state.hdr 0) state.hdr.seq idx state.stored }
  have hcall : shared.step state (.callRead out 0) = some called := by
    simp [shared, step, hidle, hseq, called, out]
  have hload : shared.step called .reader = some chosen := rfl
  let delivery : Delivery := {
    out := copyBlock out 0 (fun i => state.hdr.data (slotOffset state.hdr idx + i))
      (clipSize state.hdr 0).toNat
    write := state.filled idx.toNat }
  let copied := { state with reader := .storeSeq delivery.out state.hdr.seq delivery.write }
  have hcopy : shared.step chosen .reader = some copied := rfl
  let last := { state with
    reader := .idle, lastSeq := state.hdr.seq, deliveries := state.deliveries ++ [delivery] }
  have hdeliver : shared.step copied .reader = some last := rfl
  refine ⟨last, delivery, ?_, hinv.filled_latestSlot (by omega), rfl⟩
  exact (Machine.Reaches.single _ hcall).trans ((Machine.Reaches.single _ hload).trans
    ((Machine.Reaches.single _ hcopy).trans (Machine.Reaches.single _ hdeliver)))

/-- A reader that delivers the latest write without having seen its number gets it again. -/
theorem reaches_twice {state : State} (hinv : Invariant state) {out : Nat → UInt8}
    {cur : UInt32} (hreader : state.reader = .storeSeq out cur state.stored)
    (houtside : state.writer.betweenStores = false) (hunseen : cur.toNat < state.stored) :
    ∃ last, shared.Reaches state last ∧ ¬AtMostOnce last := by
  let first : Delivery := { out := out, write := state.stored }
  let delivered := { state with
    reader := .idle, lastSeq := cur, deliveries := state.deliveries ++ [first] }
  have hdeliver : shared.step state .reader = some delivered := by
    simp [shared, step, readerStep, hreader, delivered, first]
  have hnext : Invariant delivered := @invariant_step _ _ .reader hinv trivial hdeliver
  obtain ⟨last, second, hreach, hwrite, hlast⟩ :=
    reaches_delivery hnext rfl houtside hunseen
  refine ⟨last, (Machine.Reaches.single _ hdeliver).trans hreach, fun honce => ?_⟩
  have hsame : second.write = state.stored := hwrite
  have hwrites : last.deliveries.map Delivery.write =
      state.deliveries.map Delivery.write ++ [state.stored, state.stored] := by
    rw [hlast, List.map_append, List.map_append, List.append_assoc]
    simp [first, hsame]
  rw [AtMostOnce, hwrites] at honce
  have hpair := (List.nodup_append.mp honce).2.1
  simp at hpair

/-- A writer that has filled its slot can store both numbers. -/
theorem reaches_published {state : State} (hinv : Invariant state)
    (hfilled : state.writer.filling = none) :
    ∃ last, shared.Reaches state last ∧ Invariant last ∧ last.reader = state.reader ∧
      last.writer.betweenStores = false ∧ last.stored = state.copied := by
  have hseq : ∀ {state}, Invariant state → state.writer = .storeSeq →
      ∃ last, shared.Reaches state last ∧ Invariant last ∧ last.reader = state.reader ∧
        last.writer.betweenStores = false ∧ last.stored = state.copied := by
    intro state hinv hwriter
    have hphase := hinv.phase
    unfold WriterPhase at hphase
    rw [hwriter] at hphase
    let last := { state with
      hdr := { state.hdr with seq := state.hdr.seq + 1 }
      writer := .idle
      published := state.published + 1 }
    have hstep : shared.step state .writer = some last := by
      simp [shared, step, writerStep, hwriter, last]
    exact ⟨last, Machine.Reaches.single _ hstep, @invariant_step _ _ .writer hinv trivial hstep,
      rfl, rfl, hphase.2.1.symm⟩
  have hidx : ∀ {state wi}, Invariant state → state.writer = .storeIdx wi →
      ∃ last, shared.Reaches state last ∧ Invariant last ∧ last.reader = state.reader ∧
        last.writer.betweenStores = false ∧ last.stored = state.copied := by
    intro state wi hinv hwriter
    let next := { state with
      hdr := { state.hdr with writeIdx := (wi + 1) % k4wRingSize }
      writer := .storeSeq
      stored := state.stored + 1 }
    have hstep : shared.step state .writer = some next := by
      simp [shared, step, writerStep, hwriter, next]
    have hnext := @invariant_step _ _ .writer hinv trivial hstep
    obtain ⟨last, hreach, hrest⟩ := hseq hnext rfl
    exact ⟨last, (Machine.Reaches.single _ hstep).trans hreach, hrest⟩
  cases hwriter : state.writer with
  | copy frame wi =>
      rw [hwriter] at hfilled
      cases hfilled
  | idle =>
      have hphase := hinv.phase
      unfold WriterPhase at hphase
      rw [hwriter] at hphase
      exact ⟨state, Machine.Reaches.refl _, hinv, rfl, by rw [hwriter]; rfl, hphase.2.1.symm⟩
  | storeSeq => exact hseq hinv hwriter
  | storeIdx wi => exact hidx hinv hwriter
  | storeTime frame wi =>
      let next := { state with
        hdr := { state.hdr with timestampMs := frame.nowMs }
        writer := .storeIdx wi }
      have hstep : shared.step state .writer = some next := by
        simp [shared, step, writerStep, hwriter, next]
      have hnext := @invariant_step _ _ .writer hinv trivial hstep
      obtain ⟨last, hreach, hrest⟩ := hidx hnext rfl
      exact ⟨last, (Machine.Reaches.single _ hstep).trans hreach, hrest⟩

/-- A chosen slot that is filled by a write whose number has not been seen. -/
theorem exists_twice_of_unseen {state : State} (hinv : Invariant state) {out : Nat → UInt8}
    {size cur idx : UInt32} {chosen write : Nat}
    (hreader : state.reader = .copy out size cur idx chosen)
    (hslot : state.filled idx.toNat = write) (hunseen : cur.toNat < write)
    (hlatest : (write = state.stored ∧ state.writer.betweenStores = false) ∨
      (write = state.copied ∧ state.writer.filling = none)) :
    ∃ last, shared.Reaches state last ∧ ¬AtMostOnce last := by
  let bytes := copyBlock out 0 (fun i => state.hdr.data (slotOffset state.hdr idx + i)) size.toNat
  let copied := { state with reader := .storeSeq bytes cur write }
  have hcopy : shared.step state .reader = some copied := by
    simp [shared, step, readerStep, hreader, hslot, copied, bytes]
  have hcopied := @invariant_step _ _ .reader hinv trivial hcopy
  obtain ⟨published, hreach, hpublished, hsame, houtside, hstored⟩ :
      ∃ published, shared.Reaches copied published ∧ Invariant published ∧
        published.reader = .storeSeq bytes cur write ∧
        published.writer.betweenStores = false ∧ published.stored = write := by
    rcases hlatest with ⟨hstored, houtside⟩ | ⟨hwrite, hfilling⟩
    · exact ⟨copied, Machine.Reaches.refl _, hcopied, rfl, houtside, hstored.symm⟩
    · obtain ⟨published, hreach, hpublished, hsame, houtside, hstored⟩ :=
        reaches_published hcopied hfilling
      exact ⟨published, hreach, hpublished, hsame, houtside, hstored.trans hwrite.symm⟩
  rw [← hstored] at hsame hunseen
  obtain ⟨last, htwice, honce⟩ := reaches_twice hpublished hsame houtside hunseen
  exact ⟨last, (Machine.Reaches.single _ hcopy).trans (hreach.trans htwice), honce⟩

/-- The reader loads the index of a write that it has not seen the number of. -/
theorem exists_twice_of_earlyLoad {state next : State} (hinv : Invariant state)
    (hnot : ¬ReadsPublished state .reader) (hstep : step state .reader = some next) :
    ∃ last, shared.Reaches next last ∧ ¬AtMostOnce last := by
  have hnext := @invariant_step _ _ .reader hinv trivial hstep
  have hphase := hinv.reader
  have hwriter := hinv.phase
  have hle := hinv.published_le
  unfold ReaderPhase at hphase
  unfold WriterPhase at hwriter
  cases hreader : state.reader with
  | idle | copy | storeSeq =>
      refine absurd (.inl ?_) hnot
      rw [hreader]
      rfl
  | loadIdx out size cur =>
      rw [hreader] at hphase
      simp only [step, readerStep, hreader, Option.some.injEq] at hstep
      subst hstep
      cases hbetween : state.writer.betweenStores with
      | true =>
          have hpoint : state.writer = .storeSeq := by
            cases hpoint : state.writer with
            | storeSeq => rfl
            | _ =>
                rw [hpoint] at hbetween
                cases hbetween
          rw [hpoint] at hwriter
          refine exists_twice_of_unseen hnext rfl (hinv.filled_latestSlot (by omega)) (by omega)
            (.inr ⟨hwriter.2.1.symm, ?_⟩)
          dsimp only
          rw [hpoint]
          rfl
      | false =>
          have hstored := hinv.stored_eq_published hbetween
          have hcur : cur.toNat ≠ state.published := by
            intro hcur
            rw [← hinv.seq] at hcur
            refine hnot (.inr ⟨?_, hbetween⟩)
            rw [hreader, UInt32.toNat_inj.mp hcur]
            rfl
          exact exists_twice_of_unseen hnext rfl (hinv.filled_latestSlot (by omega)) (by omega)
            (.inl ⟨rfl, hbetween⟩)

/-- The writer fills a slot that the reader has chosen and not copied yet. -/
theorem exists_twice_of_overtaking {state next : State} (hinv : Invariant state)
    (hnot : ¬ReadsPublished state .writer) (hstep : step state .writer = some next) :
    ∃ last, shared.Reaches next last ∧ ¬AtMostOnce last := by
  have hnext := @invariant_step _ _ .writer hinv trivial hstep
  have hphase := hinv.reader
  have hwriter := hinv.phase
  obtain ⟨hfilling, hsame⟩ := not_or.mp hnot
  have hsame := not_not.mp hsame
  unfold ReaderPhase at hphase
  unfold WriterPhase at hwriter
  cases hpoint : state.writer with
  | idle | storeTime | storeIdx | storeSeq =>
      rw [hpoint] at hfilling
      exact absurd rfl hfilling
  | copy frame wi =>
      cases hreader : state.reader with
      | idle | loadIdx | storeSeq =>
          rw [hpoint, hreader] at hsame
          cases hsame
      | copy out size cur idx chosen =>
          rw [hpoint, hreader] at hsame
          rw [hpoint] at hwriter
          rw [hreader] at hphase
          have hidx : wi % k4wRingSize = idx := Option.some.inj hsame
          simp only [step, writerStep, hpoint, Option.some.injEq] at hstep
          subst hstep
          refine @exists_twice_of_unseen _ hnext out size cur idx chosen (state.copied + 1)
            hreader ?_ (by omega) (.inr ⟨rfl, rfl⟩)
          rw [← hidx]
          exact Function.update_self _ _ _

/-- From every reachable state, each excluded step lets some write be delivered twice. -/
theorem exists_twice_of_not_readsPublished {first state next : State}
    {trace : List (State × Action)} {action : Action} (hstart : shared.Start first)
    (hrun : shared.Run first trace state) (hfew : Machine.Meets FewWrites trace)
    (hstep : shared.step state action = some next) (hnot : ¬ReadsPublished state action) :
    ∃ last, shared.Reaches next last ∧ ¬AtMostOnce last := by
  have hinv : Invariant state := hrun.preserves hfew (invariant_start hstart) invariant_step
  cases action with
  | callWrite | callRead => exact absurd trivial hnot
  | writer => exact exists_twice_of_overtaking hinv hnot hstep
  | reader => exact exists_twice_of_earlyLoad hinv hnot hstep

end K4W.Shm.Deliveries
