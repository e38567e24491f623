import K4W.Library.Loop
import K4W.OpenNI.Streams

/-!
# Frames delivered by the stream loops

An iteration that comes past the gate takes the new sequence number before it
looks at the geometry and before it acquires a frame.  When one of these two
fails the frame is not raised, and the next iteration takes it for an old one.
-/

namespace K4W.OpenNI

open K4W.Library
open K4W.Shm

/-! ## One iteration -/

/-- What an iteration observes: the mapping, if any, and the acquired frame, if any. -/
structure Observation where
  mapping : Option Mapping
  acquired : Option (Nat → UInt8)

/-- The mapped header that an iteration accepts by its magic number and its size. -/
def Observation.header? (observed : Observation) : Option K4wShmHeader :=
  match observed.mapping with
  | none => none
  | some mapping =>
      if mapping.hdr.magic ≠ k4wShmMagic ∨ mapping.size < headerBytes then none
      else some mapping.hdr

/-- The header of an iteration that comes past the gate. -/
def newHeader? (state : LoopState) (observed : Observation) : Option K4wShmHeader :=
  observed.header?.filter fun hdr => !notNew state hdr

/-- The header has a geometry that the loops accept. -/
def HasGeometry (hdr : K4wShmHeader) : Prop :=
  hdr.w.toInt32 ≠ 0 ∧ hdr.h.toInt32 ≠ 0

instance (hdr : K4wShmHeader) : Decidable (HasGeometry hdr) :=
  inferInstanceAs (Decidable (_ ∧ _))

/-- The frame that an iteration raised. -/
def Outcome.frame? : Outcome → Option OniFrame
  | .raised frame => some frame
  | _ => none

/-- The outcomes of an iteration that the gate or something before it stopped. -/
def Outcome.Stopped : Outcome → Prop
  | .noMapping | .badHeader | .notNew => True
  | _ => False

section Cases

variable (stream : Stream) (state : LoopState) (observed : Observation)

/-- An iteration without a new header ends with the state it began with. -/
theorem mainloopIteration_stopped (hheader : newHeader? state observed = none) :
    ∃ outcome : Outcome, outcome.Stopped ∧
      mainloopIteration stream state observed.mapping observed.acquired = (state, outcome) := by
  obtain ⟨mapping, acquired⟩ := observed
  cases mapping with
  | none => exact ⟨.noMapping, trivial, rfl⟩
  | some mapping =>
      simp only [newHeader?, Observation.header?] at hheader
      simp only [mainloopIteration]
      split
      case isTrue => exact ⟨.badHeader, trivial, rfl⟩
      case isFalse hok =>
          rw [if_neg hok] at hheader
          have hnot : notNew state mapping.hdr = true := by simpa using hheader
          rw [if_pos hnot]
          exact ⟨.notNew, trivial, rfl⟩

/-- What an iteration with a new header does after the gate. -/
theorem mainloopIteration_new {hdr : K4wShmHeader}
    (hheader : newHeader? state observed = some hdr) :
    mainloopIteration stream state observed.mapping observed.acquired =
      if ¬HasGeometry hdr then
        ({ state with lastSeq := hdr.seq.toInt32 }, .noGeometry)
      else
        match observed.acquired with
        | none => ({ state with lastSeq := hdr.seq.toInt32 }, .noFrame)
        | some buffer =>
            (⟨hdr.seq.toInt32, state.frameId + 1⟩,
              .raised (fillFrame stream state.frameId hdr buffer)) := by
  obtain ⟨mapping, acquired⟩ := observed
  obtain ⟨hsome, hnew⟩ := Option.filter_eq_some_iff.mp hheader
  cases mapping with
  | none => cases hsome
  | some mapping =>
      simp only [Observation.header?] at hsome
      split at hsome
      case isTrue => cases hsome
      case isFalse hok =>
          cases hsome
          have hgate : ¬notNew state mapping.hdr = true := by simpa using hnew
          have hgeometry : (mapping.hdr.w.toInt32 = 0 ∨ mapping.hdr.h.toInt32 = 0) ↔
              ¬HasGeometry mapping.hdr := by
            simp only [HasGeometry]
            tauto
          cases acquired with
          | none => simp only [mainloopIteration, if_neg hok, if_neg hgate, hgeometry]
          | some buffer => simp only [mainloopIteration, if_neg hok, if_neg hgate, hgeometry]

/-- The gate compares with the last number taken, so a new header has another one. -/
theorem lastSeq_ne_of_new {hdr : K4wShmHeader}
    (hheader : newHeader? state observed = some hdr) : hdr.seq.toInt32 ≠ state.lastSeq := by
  have hnew := (Option.filter_eq_some_iff.mp hheader).2
  intro heq
  simp [notNew, heq] at hnew

end Cases

/-! ## Runs of a loop -/

/-- `mainloop` of a stream. -/
def mainloop (stream : Stream) : Loop LoopState Observation Outcome where
  initial := .initial
  step := fun state observed =>
    mainloopIteration stream state observed.mapping observed.acquired

abbrev StreamIteration := Iteration LoopState Observation Outcome

/-- A new header has a geometry, and a frame was acquired for it. -/
def Deliverable (state : LoopState) (observed : Observation) : Prop :=
  ∀ hdr, newHeader? state observed = some hdr →
    HasGeometry hdr ∧ observed.acquired.isSome = true

/-- There is a new header, and nothing prevents the delivery of its frame. -/
def delivers (state : LoopState) (observed : Observation) : Bool :=
  match newHeader? state observed with
  | none => false
  | some hdr => decide (HasGeometry hdr) && observed.acquired.isSome

/-- An iteration that raises no frame leaves the state as it was. -/
def KeepsUndelivered (iteration : StreamIteration) : Prop :=
  iteration.output.frame? = none → iteration.after = iteration.before

/-- The frames that the iterations raised, first one first. -/
def raisedFrames (run : List StreamIteration) : List OniFrame :=
  run.filterMap fun iteration => iteration.output.frame?

/-- The frames are numbered 0, 1, 2, and so on. -/
def Numbered (frames : List OniFrame) : Prop :=
  ∀ (i : Nat) (frame : OniFrame), frames[i]? = some frame → frame.frameIndex.toInt = i

section Step

variable (stream : Stream) (state : LoopState) (observed : Observation)

/-- What an iteration does to the frame count, with the frame that it raises. -/
theorem iterate_cases :
    let iteration := (mainloop stream).iterate state observed
    (delivers state observed = true ∧ iteration.after.frameId = state.frameId + 1 ∧
        ∃ frame : OniFrame, iteration.output.frame? = some frame ∧
          frame.frameIndex = state.frameId) ∨
      (delivers state observed = false ∧ iteration.after.frameId = state.frameId ∧
        iteration.output.frame? = none) := by
  intro iteration
  have hafter : iteration.after =
      (mainloopIteration stream state observed.mapping observed.acquired).1 := rfl
  have houtput : iteration.output =
      (mainloopIteration stream state observed.mapping observed.acquired).2 := rfl
  cases hheader : newHeader? state observed with
  | none =>
      right
      obtain ⟨outcome, hstopped, hresult⟩ := mainloopIteration_stopped stream state observed hheader
      rw [hafter, houtput, hresult]
      refine ⟨by simp [delivers, hheader], rfl, ?_⟩
      cases outcome with
      | raised frame => exact hstopped.elim
      | _ => rfl
  | some hdr =>
      rw [hafter, houtput, mainloopIteration_new stream state observed hheader]
      by_cases hgeometry : HasGeometry hdr
      · rw [if_neg (not_not_intro hgeometry)]
        cases hacquired : observed.acquired with
        | none => exact .inr ⟨by simp [delivers, hacquired, hheader], rfl, rfl⟩
        | some buffer =>
            exact .inl ⟨by simp [delivers, hheader, hacquired, hgeometry], rfl, _, rfl, rfl⟩
      · rw [if_pos hgeometry]
        exact .inr ⟨by simp [delivers, hheader, hgeometry], rfl, rfl⟩

theorem keepsUndelivered_iff :
    KeepsUndelivered ((mainloop stream).iterate state observed) ↔
      Deliverable state observed := by
  have hkeeps : KeepsUndelivered ((mainloop stream).iterate state observed) ↔
      ((mainloopIteration stream state observed.mapping observed.acquired).2.frame? = none →
        (mainloopIteration stream state observed.mapping observed.acquired).1 = state) :=
    Iff.rfl
  rw [hkeeps]
  cases hheader : newHeader? state observed with
  | none =>
      obtain ⟨outcome, -, hresult⟩ := mainloopIteration_stopped stream state observed hheader
      simp [hresult, Deliverable, hheader]
  | some hdr =>
      have hne := lastSeq_ne_of_new state observed hheader
      have htaken : { state with lastSeq := hdr.seq.toInt32 } ≠ state :=
        fun heq => hne (congrArg LoopState.lastSeq heq)
      rw [mainloopIteration_new stream state observed hheader]
      by_cases hgeometry : HasGeometry hdr
      · rw [if_neg (not_not_intro hgeometry)]
        cases hacquired : observed.acquired with
        | none => simpa [Deliverable, hheader, hacquired, Outcome.frame?] using htaken
        | some buffer => simp [Deliverable, hheader, hacquired, hgeometry, Outcome.frame?]
      · rw [if_pos hgeometry]
        simpa [Deliverable, hheader, hgeometry, Outcome.frame?] using htaken

end Step

section Run

variable (stream : Stream)

theorem raisedFrames_append (run : List StreamIteration) (iteration : StreamIteration) :
    raisedFrames (run ++ [iteration]) =
      raisedFrames run ++ iteration.output.frame?.toList := by
  rw [raisedFrames, List.filterMap_append, raisedFrames]
  cases hframe : iteration.output.frame? <;> simp [hframe]

/-- The number of frames raised, and the number of iterations that deliver. -/
def deliveries (run : List StreamIteration) : Nat :=
  run.countP fun iteration => delivers iteration.before iteration.input

theorem deliveries_append (run : List StreamIteration) (iteration : StreamIteration) :
    deliveries (run ++ [iteration]) = deliveries run +
      if delivers iteration.before iteration.input then 1 else 0 := by
  rw [deliveries, List.countP_append, List.countP_singleton]
  rfl

/-- What a run has raised: the frame count and the indices of the frames. -/
structure Counts (run : List StreamIteration) (state : LoopState) : Prop where
  frameId : state.frameId = Int32.ofNat (deliveries run)
  length : (raisedFrames run).length = deliveries run
  index : ∀ i (frame : OniFrame), (raisedFrames run)[i]? = some frame →
    frame.frameIndex = Int32.ofNat i

/-- A frame numbered by the count of the frames before it continues the numbering. -/
theorem index_append {frames : List OniFrame} {last : OniFrame}
    (hindex : ∀ i (frame : OniFrame), frames[i]? = some frame →
      frame.frameIndex = Int32.ofNat i)
    (hlast : last.frameIndex = Int32.ofNat frames.length) (i : Nat) (frame : OniFrame)
    (hframe : (frames ++ [last])[i]? = some frame) : frame.frameIndex = Int32.ofNat i := by
  rcases Nat.lt_trichotomy i frames.length with hold | rfl | hpast
  · rw [List.getElem?_append_left hold] at hframe
    exact hindex i frame hframe
  · rw [List.getElem?_concat_length] at hframe
    cases hframe
    exact hlast
  · rw [List.getElem?_eq_none (by simpa using Nat.succ_le_of_lt hpast)] at hframe
    cases hframe

theorem Counts.iterate {run : List StreamIteration} {state : LoopState}
    (hcounts : Counts run state) (observed : Observation) :
    Counts (run ++ [(mainloop stream).iterate state observed])
      ((mainloop stream).next state observed) := by
  have hcount : deliveries (run ++ [(mainloop stream).iterate state observed]) =
      deliveries run + if delivers state observed then 1 else 0 := deliveries_append run _
  have hraised := raisedFrames_append run ((mainloop stream).iterate state observed)
  rcases iterate_cases stream state observed with
    ⟨hdelivers, hnext, frame, hframe, hindex⟩ | ⟨hnot, hnext, hframe⟩
  · rw [if_pos hdelivers] at hcount
    rw [hframe, Option.toList_some] at hraised
    refine ⟨?_, ?_, ?_⟩
    · change ((mainloop stream).iterate state observed).after.frameId = _
      rw [hnext, hcounts.frameId, hcount, Int32.ofNat_add]
      rfl
    · rw [hraised, hcount, List.length_append, hcounts.length]
      rfl
    · rw [hraised]
      apply index_append hcounts.index
      rw [hindex, hcounts.frameId, hcounts.length]
  · rw [if_neg (by simp [hnot]), Nat.add_zero] at hcount
    rw [hframe, Option.toList_none, List.append_nil] at hraised
    refine ⟨?_, ?_, ?_⟩
    · change ((mainloop stream).iterate state observed).after.frameId = _
      rw [hnext, hcounts.frameId, hcount]
    · rw [hraised, hcount, hcounts.length]
    · rw [hraised]
      exact hcounts.index

theorem counts_run (observed : List Observation) :
    Counts ((mainloop stream).run observed) ((mainloop stream).state observed) := by
  apply Loop.run_invariant
  · exact ⟨rfl, rfl, fun i frame hframe => by simp [raisedFrames] at hframe⟩
  · exact fun input hcounts => hcounts.iterate stream input

/-- The indices of the frames count up as long as `frameId` does not wrap. -/
theorem numbered_iff (observed : List Observation) :
    Numbered (raisedFrames ((mainloop stream).run observed)) ↔
      deliveries ((mainloop stream).run observed) ≤ 2 ^ 31 := by
  have hcounts := counts_run stream observed
  constructor
  · intro hnumbered
    by_contra hmany
    have hlast : 2 ^ 31 < (raisedFrames ((mainloop stream).run observed)).length := by
      rw [hcounts.length]
      exact Nat.lt_of_not_le hmany
    have hframe := List.getElem?_eq_getElem hlast
    have hvalue := hnumbered _ _ hframe
    rw [hcounts.index _ _ hframe] at hvalue
    exact absurd hvalue (by decide)
  · intro hfew i frame hframe
    have hlt := (List.getElem?_eq_some_iff.mp hframe).1
    rw [hcounts.length] at hlt
    rw [hcounts.index i frame hframe]
    exact CInt.toInt_ofNat_eq (Nat.lt_of_lt_of_le hlt hfew)

/--
Undelivered frames are not marked as seen, and the raised ones are numbered
without gap, exactly when every new header has a geometry and gets a frame, and
no more frames are raised than `frameId` can number.
-/
theorem keepsUndelivered_iff_deliverable (observed : List Observation) :
    let run := (mainloop stream).run observed
    ((∀ iteration ∈ run, KeepsUndelivered iteration) ∧ Numbered (raisedFrames run)) ↔
      (∀ iteration ∈ run, Deliverable iteration.before iteration.input) ∧
        run.countP (fun iteration => delivers iteration.before iteration.input) ≤ 2 ^ 31 := by
  intro run
  have hstep : ∀ iteration ∈ run,
      (KeepsUndelivered iteration ↔ Deliverable iteration.before iteration.input) := by
    intro iteration hmem
    obtain ⟨past, input, -, -, rfl⟩ := (mainloop stream).mem_run_iff.mp hmem
    exact keepsUndelivered_iff stream _ input
  rw [numbered_iff]
  exact and_congr_left' (forall₂_congr hstep)

/-- A published frame of 640 by 480 pixels for which no frame can be acquired. -/
def unacquired : Observation where
  mapping := some ⟨headerBytes, { zeroHeader with
    magic := k4wShmMagic, w := 640, h := 480, seq := 1 }⟩
  acquired := none

/-- The first published frame is not raised, and is taken for an old one afterwards. -/
theorem not_keepsUndelivered_unacquired :
    ¬ ∀ (stream : Stream) (observed : List Observation),
      let run := (mainloop stream).run observed
      (∀ iteration ∈ run, KeepsUndelivered iteration) ∧ Numbered (raisedFrames run) := by
  intro hall
  have hkept := (hall depthStream [unacquired]).1
    ((mainloop depthStream).iterate .initial unacquired) List.mem_cons_self
  have hsame := congrArg LoopState.lastSeq (hkept rfl)
  exact absurd hsame (by decide)

end Run

end K4W.OpenNI
