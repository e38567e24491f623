import K4W.OpenNI.Delivery
import K4W.Shm.ReaderAgreement

/-!
# The sequence gates

A reader keeps the sequence number of the last frame that came past its gate
and compares `seq` of the header with it.  `k4w_shm_read_frame` keeps the
number in a `uint32_t`.  The stream loops and the microphone monitor keep it in
an `int`, and their gates also ask for a number of at least one.
-/

namespace K4W.Shm.Gates

open K4W.Library

/-- A reader with what it keeps between polls and what else decides a poll. -/
structure GatedReader (Kept Env : Type) where
  initial : Kept
  /-- The comparison with the sequence number of the header. -/
  isNew : Kept → K4wShmHeader → Bool
  /-- The poll gets as far as the comparison. -/
  reaches : K4wShmHeader → Env → Bool
  /-- One poll: whether it came past the gate, and what the reader keeps after it. -/
  poll : Kept → K4wShmHeader → Env → Bool × Kept
  passed_eq : ∀ kept hdr env, (poll kept hdr env).1 = (reaches hdr env && isNew kept hdr)
  kept_of_blocked : ∀ kept hdr env, (poll kept hdr env).1 = false →
    (poll kept hdr env).2 = kept
  /-- What the reader keeps after it accepted the frame of this number, or none for 0. -/
  Keeps : Kept → Nat → Prop
  keeps_initial : Keeps initial 0
  keeps_passed : ∀ kept hdr env number, hdr.seq = UInt32.ofNat number →
    (poll kept hdr env).1 = true → Keeps (poll kept hdr env).2 number

/-! ## The readers -/

/-- An `int` that starts with -1 and takes the numbers of accepted frames. -/
def KeepsInt (lastSeq : Int32) (number : Nat) : Prop :=
  lastSeq = if number = 0 then -1 else (UInt32.ofNat number).toInt32

/-- The gates with an `int` accept no frame before the first one. -/
theorem keepsInt_of_positive {seq : UInt32} {number : Nat} (hseq : seq = UInt32.ofNat number)
    (hpos : ¬seq.toInt32 < 1) : KeepsInt seq.toInt32 number := by
  have hne : number ≠ 0 := by
    rintro rfl
    rw [hseq] at hpos
    exact hpos (by decide)
  rw [KeepsInt, if_neg hne, hseq]

/-- The arguments of `k4w_shm_read_frame` besides the header and `*seq`. -/
structure ReadPoll where
  out : Nat → UInt8
  size : UInt32

/-- A caller of `k4w_shm_read_frame` whose `*seq` starts with the number of no frame. -/
def readFrame : GatedReader UInt32 ReadPoll where
  initial := 0
  isNew := fun seq hdr => hdr.seq != seq
  reaches := fun _ _ => true
  poll := fun seq hdr env =>
    let read := k4wShmReadFrame hdr env.out env.size seq
    (read.delivered, read.seq)
  passed_eq := by
    intro seq hdr env
    by_cases hseen : hdr.seq = seq
    · simp [k4wShmReadFrame, hseen]
    · simp [k4wShmReadFrame, hseen]
  kept_of_blocked := by
    intro seq hdr env hblocked
    by_cases hseen : hdr.seq = seq
    · simp [k4wShmReadFrame, hseen]
    · simp [k4wShmReadFrame, hseen] at hblocked
  Keeps := fun seq number => seq = UInt32.ofNat number
  keeps_initial := rfl
  keeps_passed := by
    intro seq hdr env number hseq hpassed
    by_cases hseen : hdr.seq = seq
    · simp [k4wShmReadFrame, hseen] at hpassed
    · simp [k4wShmReadFrame, hseen, ← hseq]

/-- The iteration came past the comparison of the sequence numbers. -/
def passed : OpenNI.Outcome → Bool
  | .noMapping | .badHeader | .notNew => false
  | .noGeometry | .noFrame | .raised _ => true

/-- What an iteration of a stream loop finds besides the header. -/
structure StreamPoll where
  mappedSize : Option Nat
  acquired : Option (Nat → UInt8)

def StreamPoll.observation (env : StreamPoll) (hdr : K4wShmHeader) : OpenNI.Observation where
  mapping := env.mappedSize.map fun size => ⟨size, hdr⟩
  acquired := env.acquired

theorem newHeader?_observation (state : OpenNI.LoopState) (hdr : K4wShmHeader)
    (env : StreamPoll) :
    OpenNI.newHeader? state (env.observation hdr) =
      if (env.observation hdr).header?.isSome && !OpenNI.notNew state hdr then some hdr
      else none := by
  obtain ⟨mappedSize, acquired⟩ := env
  cases mappedSize with
  | none => rfl
  | some size =>
      simp only [OpenNI.newHeader?, OpenNI.Observation.header?, StreamPoll.observation,
        Option.map_some]
      split
      · rfl
      · simp [Option.filter]

/-- What a poll makes of the gate, whichever way the iteration goes on after it. -/
theorem passed_mainloopIteration (stream : OpenNI.Stream) (state : OpenNI.LoopState)
    (observed : OpenNI.Observation) :
    passed (OpenNI.mainloopIteration stream state observed.mapping observed.acquired).2 =
      (OpenNI.newHeader? state observed).isSome := by
  cases hheader : OpenNI.newHeader? state observed with
  | none =>
      obtain ⟨outcome, hstopped, hresult⟩ :=
        OpenNI.mainloopIteration_stopped stream state observed hheader
      rw [hresult]
      cases outcome with
      | noMapping | badHeader | notNew => rfl
      | noGeometry | noFrame | raised _ => exact hstopped.elim
  | some hdr =>
      rw [OpenNI.mainloopIteration_new stream state observed hheader]
      split
      · rfl
      · cases observed.acquired <;> rfl

/-- Past the gate the state has the number of the header. -/
theorem lastSeq_mainloopIteration {stream : OpenNI.Stream} {state : OpenNI.LoopState}
    {observed : OpenNI.Observation} {hdr : K4wShmHeader}
    (hheader : OpenNI.newHeader? state observed = some hdr) :
    (OpenNI.mainloopIteration stream state observed.mapping
      observed.acquired).1.lastSeq = hdr.seq.toInt32 := by
  rw [OpenNI.mainloopIteration_new stream state observed hheader]
  split
  · rfl
  · cases observed.acquired <;> rfl

/-- `K4WDepthStream::mainloop` and `K4WColorStream::mainloop`. -/
def streamLoop (stream : OpenNI.Stream) : GatedReader OpenNI.LoopState StreamPoll where
  initial := .initial
  isNew := fun state hdr => !OpenNI.notNew state hdr
  reaches := fun hdr env => (env.observation hdr).header?.isSome
  poll := fun state hdr env =>
    let observed := env.observation hdr
    let iteration :=
      OpenNI.mainloopIteration stream state observed.mapping observed.acquired
    (passed iteration.2, iteration.1)
  passed_eq := by
    intro state hdr env
    have hpassed := passed_mainloopIteration stream state (env.observation hdr)
    rw [newHeader?_observation] at hpassed
    refine hpassed.trans ?_
    cases hgate : (env.observation hdr).header?.isSome && !OpenNI.notNew state hdr <;> rfl
  kept_of_blocked := by
    intro state hdr env hblocked
    have hpassed := passed_mainloopIteration stream state (env.observation hdr)
    have hnone : OpenNI.newHeader? state (env.observation hdr) = none :=
      Option.isSome_eq_false_iff.mp (hpassed.symm.trans hblocked) |> Option.isNone_iff_eq_none.mp
    obtain ⟨outcome, -, hresult⟩ :=
      OpenNI.mainloopIteration_stopped stream state (env.observation hdr) hnone
    exact congrArg Prod.fst hresult
  Keeps := fun state number => KeepsInt state.lastSeq number
  keeps_initial := rfl
  keeps_passed := by
    intro state hdr env number hseq hpassed
    have hsome := (passed_mainloopIteration stream state (env.observation hdr)).symm.trans hpassed
    have hheader := newHeader?_observation state hdr env
    cases hgate : (env.observation hdr).header?.isSome && !OpenNI.notNew state hdr with
    | false =>
        rw [hgate] at hheader
        simp [hheader] at hsome
    | true =>
        rw [hgate, if_pos rfl] at hheader
        have hnew : ¬hdr.seq.toInt32 < 1 := by
          intro hlt
          simp [OpenNI.notNew, hlt] at hgate
        change KeepsInt (OpenNI.mainloopIteration stream state _ _).1.lastSeq number
        rw [lastSeq_mainloopIteration hheader]
        exact keepsInt_of_positive hseq hnew

/-- What an iteration of the monitor finds besides the header. -/
structure MicPoll where
  enabled : Bool
  mappedSize : Option Nat

def copied : Gui.MicOutcome → Bool
  | .copied _ _ => true
  | _ => false

/-- `MicMonitorThread::run` -/
def micMonitor : GatedReader Int32 MicPoll where
  initial := -1
  isNew := fun lastSeq hdr => !(hdr.seq.toInt32 == lastSeq || hdr.seq.toInt32 < 1)
  reaches := fun hdr env =>
    env.enabled && env.mappedSize.isSome && hdr.magic == k4wShmMagic
  poll := fun lastSeq hdr env =>
    let iteration := Gui.micIteration lastSeq env.enabled
      (env.mappedSize.map fun size => ⟨size, hdr⟩)
    (copied iteration.2, iteration.1)
  passed_eq := by
    rintro lastSeq hdr ⟨enabled, mappedSize⟩
    cases enabled with
    | false => rfl
    | true =>
        cases mappedSize with
        | none => rfl
        | some size =>
            simp only [Gui.micIteration, Option.map_some]
            by_cases hmagic : hdr.magic = k4wShmMagic
            · by_cases hold : (hdr.seq.toInt32 == lastSeq || hdr.seq.toInt32 < 1) = true
              · simp [hmagic, hold, copied]
              · simp [hmagic, hold, copied]
            · simp [hmagic, copied]
  kept_of_blocked := by
    rintro lastSeq hdr ⟨enabled, mappedSize⟩ hblocked
    cases enabled with
    | false => rfl
    | true =>
        cases mappedSize with
        | none => rfl
        | some size =>
            simp only [Gui.micIteration, Option.map_some] at hblocked ⊢
            by_cases hmagic : hdr.magic = k4wShmMagic
            · by_cases hold : (hdr.seq.toInt32 == lastSeq || hdr.seq.toInt32 < 1) = true
              · simp [hmagic, hold]
              · simp [hmagic, hold, copied] at hblocked
            · simp [hmagic]
  Keeps := KeepsInt
  keeps_initial := rfl
  keeps_passed := by
    rintro lastSeq hdr ⟨enabled, mappedSize⟩ number hseq hpassed
    cases enabled with
    | false => cases hpassed
    | true =>
        cases mappedSize with
        | none => cases hpassed
        | some size =>
            simp only [Gui.micIteration, Option.map_some] at hpassed ⊢
            by_cases hmagic : hdr.magic = k4wShmMagic
            · by_cases hold : (hdr.seq.toInt32 == lastSeq || hdr.seq.toInt32 < 1) = true
              · simp [hmagic, hold, copied] at hpassed
              · have hnew : ¬hdr.seq.toInt32 < 1 := fun hlt => hold (by simp [hlt])
                simp only [hmagic, hold]
                exact keepsInt_of_positive hseq hnew
            · simp [hmagic, copied] at hpassed

/-! ## A reader on a segment -/

inductive Event (Env : Type) where
  | publish (frame : Frame)
  | poll (env : Env)

/-- A segment and one of its readers. -/
structure Watch (Kept : Type) where
  hdr : K4wShmHeader
  /-- How many frames have been published. -/
  published : Nat
  /-- How many had been published when the reader last accepted a frame, or 0. -/
  accepted : Nat
  kept : Kept

section Watching

variable {Kept Env : Type} (reader : GatedReader Kept Env) (start : K4wShmHeader)

/-- The daemon publishes frames and the reader polls, in any order. -/
def watching : Loop (Watch Kept) (Event Env) Bool where
  initial := ⟨start, 0, 0, reader.initial⟩
  step := fun watch event =>
    match event with
    | .publish frame =>
        ({ watch with
          hdr := writeFrame watch.hdr frame, published := watch.published + 1 }, false)
    | .poll env =>
        let polled := reader.poll watch.kept watch.hdr env
        ({ watch with
          kept := polled.2
          accepted := if polled.1 then watch.published else watch.accepted }, polled.1)

/-- The numbers that the header and the reader have after the counted frames. -/
structure Tracks (watch : Watch Kept) : Prop where
  seq : watch.hdr.seq = UInt32.ofNat watch.published
  keeps : reader.Keeps watch.kept watch.accepted

variable {reader start}

theorem Tracks.next {watch : Watch Kept} (htracks : Tracks reader watch) (event : Event Env) :
    Tracks reader ((watching reader start).next watch event) := by
  cases event with
  | publish frame =>
      refine ⟨?_, htracks.keeps⟩
      change watch.hdr.seq + 1 = UInt32.ofNat (watch.published + 1)
      rw [htracks.seq, UInt32.ofNat_add]
      rfl
  | poll env =>
      refine ⟨htracks.seq, ?_⟩
      change reader.Keeps (reader.poll watch.kept watch.hdr env).2
        (if (reader.poll watch.kept watch.hdr env).1 then watch.published else watch.accepted)
      cases hpassed : (reader.poll watch.kept watch.hdr env).1 with
      | true => exact reader.keeps_passed _ _ _ _ htracks.seq hpassed
      | false =>
          rw [reader.kept_of_blocked _ _ _ hpassed]
          exact htracks.keeps

theorem tracks_state (hstart : start.seq = 0) (events : List (Event Env)) :
    Tracks reader ((watching reader start).state events) := by
  apply Loop.state_of_past
  · exact ⟨hstart, reader.keeps_initial⟩
  · exact fun event htracks => htracks.next event

/-- Frames that are only published, none of them polled for. -/
theorem state_publish (start : K4wShmHeader) (frame : Frame) (count : Nat) :
    let watch := (watching reader start).state (List.replicate count (.publish frame))
    watch.published = count ∧ watch.accepted = 0 := by
  induction count with
  | zero => exact ⟨rfl, rfl⟩
  | succ count ih =>
      obtain ⟨hpublished, haccepted⟩ := ih
      rw [List.replicate_succ', Loop.state_append]
      exact ⟨congrArg (· + 1) hpublished, haccepted⟩

end Watching

/-! ## The gates on a new frame -/

/-- A frame is published that the reader has not accepted, less than a wrap ago. -/
structure Unseen {Kept : Type} (watch : Watch Kept) : Prop where
  new : watch.accepted < watch.published
  near : watch.published - watch.accepted < 2 ^ 32

/-- Two readers that accepted their last frames at the same moment. -/
structure SameCounts {Kept Other : Type} (watch : Watch Kept) (other : Watch Other) : Prop where
  published : other.published = watch.published
  accepted : other.accepted = watch.accepted

/-- The number of the latest frame is positive as an `int`. -/
def PositiveInt (published : Nat) : Prop :=
  1 ≤ published % 2 ^ 32 ∧ published % 2 ^ 32 < 2 ^ 31

/-- The gate lets the new frame through, as that of `k4w_shm_read_frame` does. -/
def Agrees {Kept Env : Type} (reader : GatedReader Kept Env) (watch : Watch Kept)
    (other : Watch UInt32) : Prop :=
  reader.isNew watch.kept watch.hdr = true ∧ readFrame.isNew other.kept other.hdr = true

/-- In every run the gates agree on new frames exactly when the count meets the condition. -/
def AgreesExactly {Kept Env : Type} (reader : GatedReader Kept Env) (start : K4wShmHeader)
    (condition : Nat → Prop) : Prop :=
  ∀ (events : List (Event Env)) (polls : List (Event ReadPoll)),
    let watch := (watching reader start).state events
    let other := (watching readFrame start).state polls
    Unseen watch → SameCounts watch other →
      (Agrees reader watch other ↔ condition watch.published)

/-- Counts less than a wrap apart have different numbers. -/
theorem ofNat_ne_of_near {first last : Nat} (hlt : first < last) (hnear : last - first < 2 ^ 32) :
    UInt32.ofNat last ≠ UInt32.ofNat first := by
  intro heq
  have hmod : last % 2 ^ 32 = first % 2 ^ 32 := by
    rw [← UInt32.toNat_ofNat', ← UInt32.toNat_ofNat', heq]
  omega

theorem toInt_ofNat_cases (number : Nat) :
    (PositiveInt number ∧ (UInt32.ofNat number).toInt32.toInt = (number % 2 ^ 32 : Nat)) ∨
      (¬PositiveInt number ∧ (UInt32.ofNat number).toInt32.toInt < 1) := by
  have hnat : (UInt32.ofNat number).toNat = number % 2 ^ 32 := UInt32.toNat_ofNat'
  have hcond : (UInt32.ofNat number).toInt32.toInt =
      if 2 * (UInt32.ofNat number).toNat < 2 ^ 32 then ((UInt32.ofNat number).toNat : Int)
      else ((UInt32.ofNat number).toNat : Int) - 2 ^ 32 :=
    BitVec.toInt_eq_toNat_cond (UInt32.ofNat number).toBitVec
  rw [hnat] at hcond
  simp only [PositiveInt]
  split at hcond <;> omega

/-- The gates with an `int` let a new frame through when its number is positive there. -/
theorem isNewInt_iff {seq : UInt32} {lastSeq : Int32} {published accepted : Nat}
    (hseq : seq = UInt32.ofNat published) (hkeeps : KeepsInt lastSeq accepted)
    (hnew : accepted < published) (hnear : published - accepted < 2 ^ 32) :
    (!(seq.toInt32 == lastSeq || seq.toInt32 < 1)) = true ↔ PositiveInt published := by
  have hgate : (!(seq.toInt32 == lastSeq || seq.toInt32 < 1)) = true ↔
      seq.toInt32 ≠ lastSeq ∧ 1 ≤ seq.toInt32.toInt := by
    have hlt : seq.toInt32 < 1 ↔ seq.toInt32.toInt < 1 := Int32.lt_iff_toInt_lt
    simp [hlt]
  rw [hgate, hseq]
  rcases toInt_ofNat_cases published with ⟨hpositive, hvalue⟩ | ⟨hnot, hvalue⟩
  · refine iff_of_true ⟨?_, ?_⟩ hpositive
    · rw [hkeeps]
      intro heq
      split at heq
      case isTrue =>
          rw [heq] at hvalue
          have hminus : (-1 : Int32).toInt = -1 := rfl
          omega
      case isFalse =>
          have hsame : UInt32.ofNat published = UInt32.ofNat accepted := by
            simpa using congrArg Int32.toUInt32 heq
          exact ofNat_ne_of_near hnew hnear hsame
    · rw [hvalue]
      exact_mod_cast hpositive.1
  · refine iff_of_false (fun hpassed => ?_) hnot
    omega

/-- `k4w_shm_read_frame` lets every new frame through. -/
theorem readFrame_isNew {other : Watch UInt32} (htracks : Tracks readFrame other)
    (hunseen : Unseen other) : readFrame.isNew other.kept other.hdr = true := by
  have hkeeps : other.kept = UInt32.ofNat other.accepted := htracks.keeps
  have hne := ofNat_ne_of_near hunseen.new hunseen.near
  simp [readFrame, htracks.seq, hkeeps, hne]

/-- A reader whose gate is decided by the count agrees exactly when the count says so. -/
theorem agreesExactly_of_isNew {Kept Env : Type} {reader : GatedReader Kept Env}
    {start : K4wShmHeader} (hstart : start.seq = 0) {condition : Nat → Prop}
    (hisNew : ∀ watch, Tracks reader watch → Unseen watch →
      (reader.isNew watch.kept watch.hdr = true ↔ condition watch.published)) :
    AgreesExactly reader start condition := by
  intro events polls watch other hunseen hcounts
  have hother : Unseen other :=
    ⟨by rw [hcounts.published, hcounts.accepted]; exact hunseen.new,
      by rw [hcounts.published, hcounts.accepted]; exact hunseen.near⟩
  have hread := readFrame_isNew (tracks_state hstart polls) hother
  exact (and_iff_left hread).trans (hisNew watch (tracks_state hstart events) hunseen)

/--
In every run on a created segment the gates of the stream loops and of the
monitor let a new frame through, as that of `k4w_shm_read_frame` does, exactly
when its number is positive as an `int`.
-/
theorem agreesExactly_positiveInt (calls : CreateCalls) (frameSize w h bpp : UInt32)
    (mapping : Mapping) (hcreate : k4wShmCreate calls frameSize = .ok mapping) :
    let start := mapping.hdr.withGeometry w h bpp
    (∀ stream : OpenNI.Stream, AgreesExactly (streamLoop stream) start PositiveInt) ∧
      AgreesExactly micMonitor start PositiveInt := by
  intro start
  have hstart : start.seq = 0 := by
    simp [start, k4wShmCreate_ok hcreate, K4wShmHeader.withGeometry, zeroHeader]
  constructor
  · intro stream
    apply agreesExactly_of_isNew hstart
    intro watch htracks hunseen
    exact isNewInt_iff htracks.seq htracks.keeps hunseen.new hunseen.near
  · apply agreesExactly_of_isNew hstart
    intro watch htracks hunseen
    exact isNewInt_iff htracks.seq htracks.keeps hunseen.new hunseen.near

/-- The first audio period comes past the gate of the monitor. -/
theorem agreesExactly_firstPeriod :
    let created : Mapping :=
      ⟨totalBytes 1024, { zeroHeader with magic := k4wShmMagic, frameSize := 1024 }⟩
    let start := created.hdr.withGeometry 0 0 0
    Agrees micMonitor ((watching micMonitor start).state [.publish ⟨fun _ => 7, 1024, 0⟩])
      ((watching readFrame start).state [.publish ⟨fun _ => 7, 1024, 0⟩]) := by
  have hagrees := agreesExactly_positiveInt ⟨true, true, true⟩ 1024 0 0 0 _ rfl
  exact (hagrees.2 [.publish ⟨fun _ => 7, 1024, 0⟩] [.publish ⟨fun _ => 7, 1024, 0⟩]
    ⟨by decide, by decide⟩ ⟨rfl, rfl⟩).mpr ⟨by decide, by decide⟩

/-- A stream loop that starts after `2 ^ 31` frames does not see the latest one. -/
theorem not_agrees_halfway :
    ¬ ∀ (calls : CreateCalls) (frameSize w h bpp : UInt32) (mapping : Mapping),
      k4wShmCreate calls frameSize = .ok mapping →
      let start := mapping.hdr.withGeometry w h bpp
      (∀ stream : OpenNI.Stream, AgreesExactly (streamLoop stream) start fun _ => True) ∧
        AgreesExactly micMonitor start fun _ => True := by
  intro hall
  let frame : Frame := ⟨fun _ => 7, 921600, 0⟩
  let created : Mapping :=
    ⟨totalBytes 921600, { zeroHeader with magic := k4wShmMagic, frameSize := 921600 }⟩
  let start := created.hdr.withGeometry 640 480 3
  obtain ⟨hstreams, -⟩ := hall ⟨true, true, true⟩ 921600 640 480 3 created rfl
  obtain ⟨count, hcount⟩ : ∃ count, count = 2 ^ 31 := ⟨_, rfl⟩
  obtain ⟨hpublished, haccepted⟩ := @state_publish _ _ (streamLoop OpenNI.colorStream) start frame count
  obtain ⟨hothers, hother⟩ := @state_publish _ _ readFrame start frame count
  have htracks := @tracks_state _ _ (streamLoop OpenNI.colorStream) start rfl
    (List.replicate count (.publish frame))
  have hunseen : Unseen ((watching (streamLoop OpenNI.colorStream) start).state
      (List.replicate count (.publish frame))) :=
    ⟨by rw [hpublished, haccepted]; omega, by rw [hpublished, haccepted]; omega⟩
  have hagrees := (hstreams OpenNI.colorStream (List.replicate count (.publish frame))
    (List.replicate count (.publish frame)) hunseen
    ⟨hothers.trans hpublished.symm, hother.trans haccepted.symm⟩).mpr trivial
  have hpositive := (isNewInt_iff htracks.seq htracks.keeps hunseen.new hunseen.near).mp hagrees.1
  rw [hpublished, hcount] at hpositive
  exact absurd hpositive.2 (by decide)

end K4W.Shm.Gates
