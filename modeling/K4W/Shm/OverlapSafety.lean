import K4W.Shm.Overlap

/-!
# Reads that overlap writes

The reader takes no lock and does not look again after its copy.  It is safe
because the writer fills the slot after the one that `write_idx` has published,
so the two latest published frames stay whole while a third is being written.
-/

namespace K4W.Shm.Overlap

open K4W.Library
open K4W.Library.Ring

/-- `write_idx` is stored at most once between the load and the last byte of the copy. -/
def Delivery.Undisturbed (delivery : Delivery) : Prop :=
  delivery.storedAtLast ≤ delivery.storedAtLoad + 1

/-- The number of the write whose slot was read; the first call is number 1. -/
def Delivery.write (delivery : Delivery) : Nat :=
  delivery.storedAtLoad

/-- The first `len` bytes are those of the payload of the write with this number. -/
def PayloadOf (calls : List Frame) (number : Nat) (bytes : Nat → UInt8) (len : Nat) : Prop :=
  1 ≤ number ∧ ∃ frame, calls[number - 1]? = some frame ∧ ∀ i < len, bytes i = frame.data i

/-- Every call writes a full frame, and fewer than `2 ^ 32` calls are made. -/
def FullFrames (state : State) : Action → Prop
  | .callWrite frame =>
      frame.size = state.hdr.frameSize ∧ state.calls.length + 1 < 2 ^ 32
  | _ => True

instance (state : State) : (action : Action) → Decidable (FullFrames state action)
  | .callWrite _ => inferInstanceAs (Decidable (_ ∧ _))
  | .callRead _ _ | .writer | .reader => .isTrue trivial

theorem PayloadOf.append {calls : List Frame} {number len : Nat} {bytes : Nat → UInt8}
    (hpayload : PayloadOf calls number bytes len) (rest : List Frame) :
    PayloadOf (calls ++ rest) number bytes len := by
  obtain ⟨hpos, frame, hframe, hbytes⟩ := hpayload
  have hlt := (List.getElem?_eq_some_iff.mp hframe).1
  refine ⟨hpos, frame, ?_, hbytes⟩
  rw [List.getElem?_append_left hlt]
  exact hframe

/-! ## The writer -/

/-- The calls whose `write_idx` is stored. -/
def published (state : State) : List Frame :=
  state.calls.take state.stored

/-- The slot that the writer fills next holds the first bytes of a frame. -/
def Filled (state : State) (frame : Frame) (len : Nat) : Prop :=
  SlotHolds state.hdr.data state.hdr.frameSize.toNat (state.stored % 3) frame.data len

/-- What the counters and the slot being filled are at each point of the writer. -/
def WriterPhase (state : State) : Prop :=
  match state.writer with
  | .idle => state.calls.length = state.stored ∧ state.hdr.seq.toNat = state.stored
  | .copying frame wi copied =>
      state.calls.length = state.stored + 1 ∧ state.hdr.seq.toNat = state.stored ∧
        wi = state.hdr.writeIdx ∧ state.calls[state.stored]? = some frame ∧
        copied ≤ state.hdr.frameSize.toNat ∧ Filled state frame copied
  | .storeIdx wi =>
      state.calls.length = state.stored + 1 ∧ state.hdr.seq.toNat = state.stored ∧
        wi = state.hdr.writeIdx ∧ ∃ frame, state.calls[state.stored]? = some frame ∧
          Filled state frame state.hdr.frameSize.toNat
  | .storeSeq => state.calls.length = state.stored ∧ state.hdr.seq.toNat + 1 = state.stored

structure WriterInvariant (state : State) : Prop where
  fits : 3 * state.hdr.frameSize.toNat < 2 ^ 32
  full : ∀ frame ∈ state.calls, frame.size = state.hdr.frameSize
  few : state.calls.length < 2 ^ 32
  writeIdx : state.hdr.writeIdx.toNat = state.stored % 3
  phase : WriterPhase state
  /-- The two latest published frames are whole. -/
  last : HoldsLast 3 state.hdr.frameSize.toNat Frame.data
    (fun _ => state.hdr.frameSize.toNat) 2 state.hdr.data (published state)

namespace WriterInvariant

variable {state : State}

theorem writeIdx_lt (hinv : WriterInvariant state) : state.hdr.writeIdx.toNat < 3 := by
  rw [hinv.writeIdx]
  exact Nat.mod_lt _ (by decide)

theorem stored_le (hinv : WriterInvariant state) : state.stored ≤ state.calls.length := by
  have hphase := hinv.phase
  unfold WriterPhase at hphase
  split at hphase <;> omega

theorem seq_le (hinv : WriterInvariant state) : state.hdr.seq.toNat ≤ state.stored := by
  have hphase := hinv.phase
  unfold WriterPhase at hphase
  split at hphase <;> omega

theorem published_length (hinv : WriterInvariant state) :
    (published state).length = state.stored := by
  rw [published, List.length_take]
  exact Nat.min_eq_left hinv.stored_le

/-- The offset at which the writer copies a frame. -/
theorem writeOffset (hinv : WriterInvariant state) :
    slotOffset state.hdr (state.hdr.writeIdx % k4wRingSize) =
      state.stored % 3 * state.hdr.frameSize.toNat := by
  have hslot := writeIdx_slot hinv.writeIdx_lt
  have hlt : (state.hdr.writeIdx % k4wRingSize).toNat < 3 := by
    rw [hslot]
    exact hinv.writeIdx_lt
  rw [slotOffset_eq hlt hinv.fits, hslot, hinv.writeIdx]

/-- The offset of a byte that the reader copies, for the frame published last. -/
theorem readSlot (hinv : WriterInvariant state) (hpos : 1 ≤ state.stored) :
    (latestSlot state.hdr.writeIdx).toNat = (state.stored - 1) % 3 := by
  rw [latestSlot_toNat hinv.writeIdx_lt, hinv.writeIdx, slot_back (by decide) hpos]

/-- The two latest published frames can be read from their slots. -/
theorem published_byte (hinv : WriterInvariant state) {number : Nat} (hpos : 1 ≤ number)
    (hle : number ≤ state.stored) (hrecent : state.stored ≤ number + 1) {frame : Frame}
    (hframe : state.calls[number - 1]? = some frame) {i : Nat}
    (hi : i < state.hdr.frameSize.toNat) :
    state.hdr.data ((number - 1) % 3 * state.hdr.frameSize.toNat + i) = frame.data i := by
  have hpub : (published state)[number - 1]? = some frame := by
    rw [published, List.getElem?_take_of_lt (by omega)]
    exact hframe
  have hlength := hinv.published_length
  exact hinv.last (number - 1) frame hpub (by omega) i hi

end WriterInvariant

theorem writerInvariant_callWrite {state next : State} {frame : Frame}
    (hinv : WriterInvariant state) (hfull : FullFrames state (.callWrite frame))
    (hstep : step state (.callWrite frame) = some next) : WriterInvariant next := by
  obtain ⟨hsize, hfew⟩ := hfull
  have hphase := hinv.phase
  simp only [step] at hstep
  split at hstep
  case h_1 hpoint =>
      cases hstep
      simp only [WriterPhase, hpoint] at hphase
      obtain ⟨hcalls, hseq⟩ := hphase
      refine ⟨hinv.fits, ?_, ?_, hinv.writeIdx, ?_, ?_⟩
      · intro call hcall
        rcases List.mem_append.mp hcall with hold | hnew
        · exact hinv.full call hold
        · rw [List.mem_singleton.mp hnew]
          exact hsize
      · simpa using hfew
      · refine ⟨by simp [hcalls], hseq, rfl, ?_, Nat.zero_le _, ?_⟩
        · simp [← hcalls]
        · intro i hi
          exact absurd hi (Nat.not_lt_zero i)
      · have hlast := hinv.last
        simpa [published, List.take_append_of_le_length (Nat.le_of_eq hcalls.symm)] using hlast
  case h_2 => cases hstep

theorem writerInvariant_writer {state next : State} (hinv : WriterInvariant state)
    (hstep : writerStep state = some next) : WriterInvariant next := by
  have hphase := hinv.phase
  have hlength := hinv.published_length
  unfold writerStep at hstep
  split at hstep
  case h_1 => cases hstep
  case h_2 frame wi copied hpoint =>
      simp only [WriterPhase, hpoint] at hphase
      obtain ⟨hcalls, hseq, rfl, hframe, hcopied, hfilled⟩ := hphase
      have hmem : frame ∈ state.calls := List.mem_of_getElem? hframe
      have hclip : (clipSize state.hdr frame.size).toNat = state.hdr.frameSize.toNat := by
        rw [clipSize_toNat, hinv.full frame hmem, Nat.min_self]
      simp only [hclip, hinv.writeOffset] at hstep
      split at hstep
      case isTrue hlt =>
          cases hstep
          have hsame : SameOutside state.hdr.frameSize.toNat (state.stored % 3) state.hdr.data _ :=
            sameOutside_update state.hdr.data (frame.data copied) hlt
          refine ⟨hinv.fits, hinv.full, hinv.few, hinv.writeIdx, ?_, ?_⟩
          · exact ⟨hcalls, hseq, rfl, hframe, hlt, update_copied hfilled⟩
          · refine hinv.last.overwrite (fun _ => Nat.le_refl _) (by decide) ?_
            rw [hlength]
            exact hsame
      case isFalse hnot =>
          cases hstep
          have heq : copied = state.hdr.frameSize.toNat := by omega
          subst heq
          exact ⟨hinv.fits, hinv.full, hinv.few, hinv.writeIdx,
            ⟨hcalls, hseq, rfl, frame, hframe, hfilled⟩, hinv.last⟩
  case h_3 wi hpoint =>
      cases hstep
      simp only [WriterPhase, hpoint] at hphase
      obtain ⟨hcalls, hseq, rfl, frame, hframe, hfilled⟩ := hphase
      refine ⟨hinv.fits, hinv.full, hinv.few, ?_, ⟨hcalls, congrArg (· + 1) hseq⟩, ?_⟩
      · change ((state.hdr.writeIdx + 1) % k4wRingSize).toNat = _
        rw [writeIdx_next hinv.writeIdx_lt, hinv.writeIdx, Nat.mod_add_mod]
      · have hgrown : state.calls.take (state.stored + 1) = published state ++ [frame] := by
          rw [List.take_add_one, hframe]
          rfl
        have hslot : Filled state frame state.hdr.frameSize.toNat := hfilled
        rw [Filled, ← hlength] at hslot
        have happend := (hinv.last.append hslot).mono (show 2 ≤ 2 + 1 by decide)
        simpa [published, hgrown] using happend
  case h_4 hpoint =>
      cases hstep
      simp only [WriterPhase, hpoint] at hphase
      obtain ⟨hcalls, hseq⟩ := hphase
      refine ⟨hinv.fits, hinv.full, hinv.few, hinv.writeIdx, ⟨hcalls, ?_⟩, hinv.last⟩
      change (state.hdr.seq + 1).toNat = state.stored
      rw [UInt32.toNat_add, show (1 : UInt32).toNat = 1 from rfl, hseq]
      have hfew := hinv.few
      omega

/-! ## The reader -/

/-- What the copy under way has loaded and copied. -/
structure CopyInvariant (state : State) (copy : Copy) : Prop where
  cur_le_seq : copy.cur.toNat ≤ state.hdr.seq.toNat
  cur_le : copy.cur.toNat ≤ copy.storedAtLoad
  pos : 1 ≤ copy.storedAtLoad
  load_le : copy.storedAtLoad ≤ copy.storedAtLast
  last_le : copy.storedAtLast ≤ state.stored
  idx : copy.idx.toNat = (copy.storedAtLoad - 1) % 3
  size : copy.size = min copy.requested.toNat state.hdr.frameSize.toNat
  copied_le : copy.copied ≤ copy.size
  bytes : copy.storedAtLast ≤ copy.storedAtLoad + 1 →
    PayloadOf state.calls copy.storedAtLoad copy.out copy.copied
  ordered : ∀ delivery ∈ state.deliveries, delivery.write ≤ copy.storedAtLoad

def ReaderPhase (state : State) : Prop :=
  match state.reader with
  | .idle => True
  | .loadIdx _ _ cur =>
      state.lastSeq.toNat < cur.toNat ∧ cur.toNat ≤ state.hdr.seq.toNat
  | .copying copy => CopyInvariant state copy

theorem CopyInvariant.size_le {state : State} {copy : Copy} (hinv : CopyInvariant state copy) :
    copy.size ≤ state.hdr.frameSize.toNat :=
  hinv.size.le.trans (Nat.min_le_right _ _)

/-- What a delivery has read from frames of a size. -/
structure DeliverySafe (frameSize : UInt32) (calls : List Frame) (delivery : Delivery) :
    Prop where
  size : delivery.size = min delivery.requested.toNat frameSize.toNat
  bytes : delivery.Undisturbed →
    PayloadOf calls delivery.write delivery.out delivery.size
  recent : delivery.seq.toNat ≤ delivery.write

structure ReaderInvariant (state : State) : Prop where
  seen : state.lastSeq.toNat ≤ state.hdr.seq.toNat
  phase : ReaderPhase state
  safe : ∀ delivery ∈ state.deliveries,
    DeliverySafe state.hdr.frameSize state.calls delivery
  stored : ∀ delivery ∈ state.deliveries, delivery.write ≤ state.stored
  ordered : (state.deliveries.map Delivery.write).Pairwise (· ≤ ·)

/-- What a step of the writer does to the data that the reader depends on. -/
structure WriterProgress (state next : State) : Prop where
  reader : next.reader = state.reader
  lastSeq : next.lastSeq = state.lastSeq
  deliveries : next.deliveries = state.deliveries
  frameSize : next.hdr.frameSize = state.hdr.frameSize
  seq : state.hdr.seq.toNat ≤ next.hdr.seq.toNat
  stored : state.stored ≤ next.stored
  calls : ∃ rest, next.calls = state.calls ++ rest

theorem writerProgress_callWrite {state next : State} {frame : Frame}
    (hstep : step state (.callWrite frame) = some next) : WriterProgress state next := by
  simp only [step] at hstep
  split at hstep
  case h_1 =>
      cases hstep
      exact ⟨rfl, rfl, rfl, rfl, Nat.le_refl _, Nat.le_refl _, [frame], rfl⟩
  case h_2 => cases hstep

theorem writerProgress_writer {state next : State} (hinv : WriterInvariant state)
    (hstep : writerStep state = some next) : WriterProgress state next := by
  have hseq := hinv.seq_le
  have hstored := hinv.stored_le
  have hfew := hinv.few
  have hcalls : ∃ rest, state.calls = state.calls ++ rest := ⟨[], (List.append_nil _).symm⟩
  have hphase := hinv.phase
  unfold writerStep at hstep
  split at hstep
  case h_1 => cases hstep
  case h_2 =>
      dsimp only at hstep
      split at hstep <;> cases hstep
      · exact ⟨rfl, rfl, rfl, rfl, Nat.le_refl _, Nat.le_refl _, hcalls⟩
      · exact ⟨rfl, rfl, rfl, rfl, Nat.le_refl _, Nat.le_refl _, hcalls⟩
  case h_3 =>
      cases hstep
      exact ⟨rfl, rfl, rfl, rfl, Nat.le_refl _, Nat.le_succ _, hcalls⟩
  case h_4 hpoint =>
      cases hstep
      simp only [WriterPhase, hpoint] at hphase
      refine ⟨rfl, rfl, rfl, rfl, ?_, Nat.le_refl _, hcalls⟩
      change state.hdr.seq.toNat ≤ (state.hdr.seq + 1).toNat
      rw [UInt32.toNat_add, show (1 : UInt32).toNat = 1 from rfl]
      omega

theorem CopyInvariant.progress {state next : State} {copy : Copy}
    (hinv : CopyInvariant state copy) (hprogress : WriterProgress state next) :
    CopyInvariant next copy := by
  obtain ⟨rest, hcalls⟩ := hprogress.calls
  refine ⟨?_, hinv.cur_le, hinv.pos, hinv.load_le, ?_, hinv.idx, ?_, hinv.copied_le, ?_, ?_⟩
  · exact Nat.le_trans hinv.cur_le_seq hprogress.seq
  · exact Nat.le_trans hinv.last_le hprogress.stored
  · rw [hprogress.frameSize]
    exact hinv.size
  · intro hundisturbed
    rw [hcalls]
    exact (hinv.bytes hundisturbed).append rest
  · rw [hprogress.deliveries]
    exact hinv.ordered

/-- Steps of the writer keep what the reader has loaded, copied, and delivered. -/
theorem ReaderInvariant.progress {state next : State} (hinv : ReaderInvariant state)
    (hprogress : WriterProgress state next) : ReaderInvariant next := by
  obtain ⟨rest, hcalls⟩ := hprogress.calls
  refine ⟨?_, ?_, ?_, ?_, ?_⟩
  · rw [hprogress.lastSeq]
    exact Nat.le_trans hinv.seen hprogress.seq
  · have hphase := hinv.phase
    unfold ReaderPhase at hphase ⊢
    rw [hprogress.reader]
    split at hphase
    case h_1 => trivial
    case h_2 =>
        rw [hprogress.lastSeq]
        exact ⟨hphase.1, Nat.le_trans hphase.2 hprogress.seq⟩
    case h_3 => exact hphase.progress hprogress
  · rw [hprogress.deliveries]
    intro delivery hmem
    have hsafe := hinv.safe delivery hmem
    rw [hprogress.frameSize]
    refine ⟨hsafe.size, fun hundisturbed => ?_, hsafe.recent⟩
    rw [hcalls]
    exact (hsafe.bytes hundisturbed).append rest
  · rw [hprogress.deliveries]
    exact fun delivery hmem => Nat.le_trans (hinv.stored delivery hmem) hprogress.stored
  · rw [hprogress.deliveries]
    exact hinv.ordered

theorem readerInvariant_callRead {state next : State} {out : Nat → UInt8} {size : UInt32}
    (hinv : ReaderInvariant state) (hstep : step state (.callRead out size) = some next) :
    ReaderInvariant next := by
  simp only [step] at hstep
  split at hstep
  case h_1 =>
      split at hstep
      case isTrue =>
          cases hstep
          exact hinv
      case isFalse hnew =>
          cases hstep
          have hne : state.hdr.seq.toNat ≠ state.lastSeq.toNat :=
            fun heq => hnew (UInt32.toNat_inj.mp heq)
          have hseen := hinv.seen
          have hlt : state.lastSeq.toNat < state.hdr.seq.toNat := by omega
          exact ⟨hseen, ⟨hlt, Nat.le_refl _⟩, hinv.safe, hinv.stored, hinv.ordered⟩
  case h_2 => cases hstep

/-- One more byte of a copy that at most one store of `write_idx` has overlapped. -/
theorem CopyInvariant.nextByte {state : State} {copy : Copy} (hwriter : WriterInvariant state)
    (hinv : CopyInvariant state copy) (hlt : copy.copied < copy.size)
    (hundisturbed : state.stored ≤ copy.storedAtLoad + 1) :
    PayloadOf state.calls copy.storedAtLoad
      (Function.update copy.out copy.copied
        (state.hdr.data (slotOffset state.hdr copy.idx + copy.copied)))
      (copy.copied + 1) := by
  have hlast := hinv.last_le
  have hload := hinv.load_le
  obtain ⟨hpos, frame, hframe, hbytes⟩ := hinv.bytes (by omega)
  have hidx : copy.idx.toNat < 3 := by
    rw [hinv.idx]
    exact Nat.mod_lt _ (by decide)
  have hbyte := hwriter.published_byte hpos (by omega) hundisturbed hframe
    (Nat.lt_of_lt_of_le hlt hinv.size_le)
  rw [slotOffset_eq hidx hwriter.fits, hinv.idx, hbyte]
  have hcopied := @update_copied _ copy.out frame.data 0 copy.copied (by simpa using hbytes)
  exact ⟨hpos, frame, hframe, by simpa using hcopied⟩

theorem readerInvariant_reader {state next : State} (hwriter : WriterInvariant state)
    (hinv : ReaderInvariant state) (hstep : readerStep state = some next) :
    ReaderInvariant next := by
  have hphase := hinv.phase
  unfold readerStep at hstep
  split at hstep
  case h_1 => cases hstep
  case h_2 out size cur hpoint =>
      cases hstep
      simp only [ReaderPhase, hpoint] at hphase
      obtain ⟨hnew, hcur⟩ := hphase
      have hseq := hwriter.seq_le
      have hpos : 1 ≤ state.stored := by omega
      have hlt : state.stored - 1 < state.calls.length := by
        have hstored := hwriter.stored_le
        omega
      refine ⟨hinv.seen, ?_, hinv.safe, hinv.stored, hinv.ordered⟩
      refine ⟨hcur, Nat.le_trans hcur hseq, hpos, Nat.le_refl _, Nat.le_refl _,
        hwriter.readSlot hpos, ?_, Nat.zero_le _, ?_, hinv.stored⟩
      · exact clipSize_toNat _ _
      · intro _
        refine ⟨hpos, _, List.getElem?_eq_getElem hlt, ?_⟩
        intro i hi
        exact absurd hi (Nat.not_lt_zero i)
  case h_3 copy hpoint =>
      simp only [ReaderPhase, hpoint] at hphase
      dsimp only at hstep
      split at hstep
      case isTrue hlt =>
          cases hstep
          refine ⟨hinv.seen, ?_, hinv.safe, hinv.stored, hinv.ordered⟩
          exact ⟨hphase.cur_le_seq, hphase.cur_le, hphase.pos,
            Nat.le_trans hphase.load_le hphase.last_le, Nat.le_refl _, hphase.idx,
            hphase.size, hlt, hphase.nextByte hwriter hlt, hphase.ordered⟩
      case isFalse hnot =>
          cases hstep
          have hcopied : copy.copied = copy.size := by
            have hle := hphase.copied_le
            omega
          refine ⟨hphase.cur_le_seq, trivial, ?_, ?_, ?_⟩
          · intro delivery hmem
            rcases List.mem_append.mp hmem with hold | hnew
            · exact hinv.safe delivery hold
            · rw [List.mem_singleton.mp hnew]
              refine ⟨hphase.size, fun hundisturbed => ?_, hphase.cur_le⟩
              have hbytes := hphase.bytes hundisturbed
              rw [hcopied] at hbytes
              exact hbytes
          · intro delivery hmem
            rcases List.mem_append.mp hmem with hold | hnew
            · exact hinv.stored delivery hold
            · rw [List.mem_singleton.mp hnew]
              exact Nat.le_trans hphase.load_le hphase.last_le
          · rw [List.map_append, List.pairwise_append]
            refine ⟨hinv.ordered, List.pairwise_singleton _ _, ?_⟩
            intro earlier hearlier later hlater
            obtain ⟨delivery, hmem, rfl⟩ := List.mem_map.mp hearlier
            rw [List.map_singleton, List.mem_singleton] at hlater
            rw [hlater]
            exact hphase.ordered delivery hmem

/-! ## Whole runs -/

structure Invariant (state : State) : Prop where
  writer : WriterInvariant state
  reader : ReaderInvariant state

/-- Steps of the reader leave the segment and the writer as they were. -/
theorem WriterInvariant.readerStep {state next : State} (hinv : WriterInvariant state)
    (hstep : readerStep state = some next) : WriterInvariant next := by
  unfold Overlap.readerStep at hstep
  split at hstep
  case h_1 => cases hstep
  case h_2 =>
      cases hstep
      exact ⟨hinv.fits, hinv.full, hinv.few, hinv.writeIdx, hinv.phase, hinv.last⟩
  case h_3 =>
      dsimp only at hstep
      split at hstep <;> cases hstep
      · exact ⟨hinv.fits, hinv.full, hinv.few, hinv.writeIdx, hinv.phase, hinv.last⟩
      · exact ⟨hinv.fits, hinv.full, hinv.few, hinv.writeIdx, hinv.phase, hinv.last⟩

theorem WriterInvariant.callRead {state next : State} {out : Nat → UInt8} {size : UInt32}
    (hinv : WriterInvariant state) (hstep : step state (.callRead out size) = some next) :
    WriterInvariant next := by
  simp only [step] at hstep
  split at hstep
  case h_1 =>
      split at hstep <;> cases hstep
      · exact hinv
      · exact ⟨hinv.fits, hinv.full, hinv.few, hinv.writeIdx, hinv.phase, hinv.last⟩
  case h_2 => cases hstep

theorem invariant_step {state next : State} {action : Action} (hinv : Invariant state)
    (hfull : FullFrames state action) (hstep : overlap.step state action = some next) :
    Invariant next := by
  cases action with
  | callWrite frame =>
      exact ⟨writerInvariant_callWrite hinv.writer hfull hstep,
        hinv.reader.progress (writerProgress_callWrite hstep)⟩
  | writer =>
      exact ⟨writerInvariant_writer hinv.writer hstep,
        hinv.reader.progress (writerProgress_writer hinv.writer hstep)⟩
  | callRead out size =>
      exact ⟨hinv.writer.callRead hstep, readerInvariant_callRead hinv.reader hstep⟩
  | reader =>
      exact ⟨hinv.writer.readerStep hstep,
        readerInvariant_reader hinv.writer hinv.reader hstep⟩

theorem invariant_fresh {state : State} (hfresh : Fresh state) : Invariant state := by
  obtain ⟨calls, frameSize, mapping, w, h, bpp, hfit, hcreate, rfl⟩ := hfresh
  rw [k4wShmCreate_ok hcreate]
  refine ⟨⟨hfit, ?_, Nat.two_pow_pos 32, rfl, ⟨rfl, rfl⟩, ?_⟩,
    ⟨Nat.le_refl _, trivial, ?_, ?_, ?_⟩⟩
  · simp [initial]
  · exact holdsLast_nil 2 _
  · simp [initial]
  · simp [initial]
  · exact List.Pairwise.nil

/--
In every interleaving of full-frame writes and reads, a read returns as many
bytes as it was asked for, or a frame if this is less; when at most one store of
`write_idx` overlaps it, they are the first bytes of the payload of one write;
this write is not older than the sequence number it stores, and the writes read
never go back.
-/
theorem readsSafe_of_fullFrames {first last : State} {trace : List (State × Action)}
    (hfresh : Fresh first) (hrun : overlap.Run first trace last)
    (hfull : Machine.Meets FullFrames trace) :
    (∀ delivery ∈ last.deliveries,
        delivery.size = min delivery.requested.toNat last.hdr.frameSize.toNat) ∧
      (∀ delivery ∈ last.deliveries, delivery.Undisturbed →
        PayloadOf last.calls delivery.write delivery.out
          (min delivery.requested.toNat last.hdr.frameSize.toNat)) ∧
      (∀ delivery ∈ last.deliveries, delivery.seq.toNat ≤ delivery.write) ∧
      (last.deliveries.map Delivery.write).Pairwise (· ≤ ·) := by
  have hinv : Invariant last := hrun.preserves hfull (invariant_fresh hfresh) invariant_step
  refine ⟨fun delivery hmem => (hinv.reader.safe delivery hmem).size, ?_,
    fun delivery hmem => (hinv.reader.safe delivery hmem).recent, hinv.reader.ordered⟩
  intro delivery hmem hundisturbed
  have hsafe := hinv.reader.safe delivery hmem
  rw [← hsafe.size]
  exact hsafe.bytes hundisturbed

/-- A segment of one-byte frames. -/
def byteSegment : K4wShmHeader :=
  { zeroHeader with magic := k4wShmMagic, frameSize := 1 }

def byteFrame (value : UInt8) : Frame :=
  ⟨fun _ => value, 1, 0⟩

/-- Two writes; the second one overlaps the first of two reads, which ask for too much. -/
def overlappedReads : List Action :=
  let out := fun _ => 0
  [.callWrite (byteFrame 7), .writer, .writer, .writer, .writer,
    .callRead out 1, .reader,
    .callWrite (byteFrame 9), .writer, .writer, .writer,
    .reader, .reader, .writer,
    .callRead out 4, .reader, .reader, .reader]

theorem readsSafe_overlappedReads :
    ∃ trace last, overlap.Run (initial byteSegment) trace last ∧
      (last.deliveries.map fun delivery =>
          (delivery.requested, delivery.size, delivery.out 0, delivery.write)) =
        [(1, 1, 7, 1), (4, 1, 9, 2)] ∧
      (∀ delivery ∈ last.deliveries, delivery.Undisturbed) ∧
      (∀ delivery ∈ last.deliveries,
        delivery.size = min delivery.requested.toNat last.hdr.frameSize.toNat) ∧
      (∀ delivery ∈ last.deliveries, delivery.Undisturbed →
        PayloadOf last.calls delivery.write delivery.out
          (min delivery.requested.toNat last.hdr.frameSize.toNat)) ∧
      (∀ delivery ∈ last.deliveries, delivery.seq.toNat ≤ delivery.write) ∧
      (last.deliveries.map Delivery.write).Pairwise (· ≤ ·) := by
  have hfresh : Fresh (initial byteSegment) :=
    ⟨⟨true, true, true⟩, 1, ⟨totalBytes 1, byteSegment⟩, 0, 0, 0, by decide, rfl, rfl⟩
  have hplay : overlap.play (initial byteSegment) overlappedReads =
      some ((overlap.play (initial byteSegment) overlappedReads).get rfl) := rfl
  have hrun := Machine.run_of_play hplay
  refine ⟨_, _, hrun, rfl, ?_, readsSafe_of_fullFrames hfresh hrun (by decide)⟩
  intro delivery hmem
  rcases List.mem_cons.mp hmem with rfl | hmem
  · exact Nat.le_refl 2
  · rw [List.mem_singleton.mp hmem]
    exact Nat.le_succ 2

end K4W.Shm.Overlap
