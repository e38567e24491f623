import K4W.Daemon.Publishing
import K4W.Library.Mailbox
import K4W.Shm.SequenceGates

/-!
# From the camera to the applications

The polling loop of the daemon and the stream loops of the plugin, with their
iterations in any order.  For each of the two streams, daemon, segment and loop
together are a mailbox of the latest frame: what the applications get are
frames of the camera, whole, in order and none twice, numbered without gap.
-/

namespace K4W.OpenNI.CameraPath

open K4W.Library
open K4W.Shm
open K4W.Shm.Gates
open K4W.Daemon.Publishing

/-! ## Daemon and plugin -/

def streamOf : Kind → Stream
  | .depth => depthStream
  | .video => colorStream

inductive Input where
  | daemon (polled : Polled)
  | stream (kind : Kind) (env : StreamPoll)

inductive Output where
  | calls (calls : List Daemon.DeviceLoss.Call)
  | outcome (kind : Kind) (outcome : Outcome)

structure System where
  site : Site
  readers : Kind → LoopState

/-- One iteration of `k4w_kinect_run` or of one of the two stream loops. -/
def system (v4l2Fd : Int32) : Loop System Input Output where
  initial := ⟨(publishing v4l2Fd startSegment).initial, fun _ => .initial⟩
  step := fun system input =>
    match input with
    | .daemon polled =>
        let result := (publishing v4l2Fd startSegment).step system.site polled
        ({ system with site := result.1 }, .calls result.2)
    | .stream kind env =>
        let observed := env.observation (system.site.outputs.segments kind)
        let result := mainloopIteration (streamOf kind) (system.readers kind) observed.mapping
          observed.acquired
        ({ system with readers := Function.update system.readers kind result.1 },
          .outcome kind result.2)

abbrev SystemIteration := Iteration System Input Output

/-- What the iterations of the daemon meet. -/
def polls (inputs : List Input) : List Polled :=
  inputs.filterMap fun
    | .daemon polled => some polled
    | .stream _ _ => none

/-- The frames that the camera handed over, first one first. -/
def published (v4l2Fd : Int32) (kind : Kind) (inputs : List Input) : List Frame :=
  cameraFrames kind ((publishing v4l2Fd startSegment).run (polls inputs))

/-- The frames that the applications got from one of the streams, first one first. -/
def raised (kind : Kind) (run : List SystemIteration) : List OniFrame :=
  run.filterMap fun iteration =>
    match iteration.output with
    | .outcome other outcome => if other = kind then outcome.frame? else none
    | .calls _ => none

/-! ## The mailbox of a stream -/

/-- How an iteration of a stream loop comes by at the segment. -/
def visitOf (env : StreamPoll) : Visit :=
  if env.mappedSize.any (headerBytes ≤ ·) then
    if env.acquired.isSome then .takes else .spills
  else .misses

/-- What an iteration of the system is for the mailbox of one stream. -/
def eventOf (kind : Kind) (iteration : SystemIteration) : Option (MailboxEvent Frame) :=
  match iteration.input, iteration.output with
  | .daemon polled, .calls calls => (handedOver kind polled calls).map .post
  | .stream other env, _ => if other = kind then some (.visit (visitOf env)) else none
  | _, _ => none

/-- The events at the mailbox of a stream. -/
def events (v4l2Fd : Int32) (kind : Kind) (inputs : List Input) : List (MailboxEvent Frame) :=
  ((system v4l2Fd).run inputs).filterMap (eventOf kind)

/-- The frame of an application shows the whole frame of the camera, with its index. -/
structure ShowsFrame (kind : Kind) (frame : Frame) (raised : OniFrame) (index : Nat) : Prop where
  data : ∀ i < kind.frameBytes.toNat, raised.data i = frame.data i
  timestamp : raised.timestamp = frame.nowMs * 1000
  width : raised.width = 640
  height : raised.height = 480
  index : raised.frameIndex = Int32.ofNat index

/-- The frames of the applications show these frames of the camera. -/
structure ShowsFrames (kind : Kind) (frames : List Frame) (raised : List OniFrame) : Prop where
  length : raised.length = frames.length
  each : ∀ i (frame : Frame) (oni : OniFrame), frames[i]? = some frame → raised[i]? = some oni →
    ShowsFrame kind frame oni i

/-! ## The daemon's part -/

section Daemon

variable (v4l2Fd : Int32)

theorem site_state (inputs : List Input) :
    ((system v4l2Fd).state inputs).site =
      (publishing v4l2Fd startSegment).state (polls inputs) := by
  induction inputs using List.reverseRecOn with
  | nil => rfl
  | append_singleton inputs last ih =>
      rw [Loop.state_append]
      cases last with
      | daemon polled =>
          have hpolls : polls (inputs ++ [.daemon polled]) = polls inputs ++ [polled] :=
            List.filterMap_append
          rw [hpolls, Loop.state_append, ← ih]
          rfl
      | stream kind env =>
          have hpolls : polls (inputs ++ [.stream kind env]) = polls inputs :=
            List.filterMap_append.trans (List.append_nil _)
          rw [hpolls, ← ih]
          rfl

variable (kind : Kind) (inputs : List Input)

theorem events_append (input : Input) :
    events v4l2Fd kind (inputs ++ [input]) = events v4l2Fd kind inputs ++
      (eventOf kind ((system v4l2Fd).iterate ((system v4l2Fd).state inputs) input)).toList := by
  rw [events, Loop.run_append, filterMap_concat]
  rfl

theorem published_daemon (polled : Polled) :
    published v4l2Fd kind (inputs ++ [.daemon polled]) = published v4l2Fd kind inputs ++
      (handedOver kind polled ((publishing v4l2Fd startSegment).output
        ((system v4l2Fd).state inputs).site polled)).toList := by
  have hpolls : polls (inputs ++ [.daemon polled]) = polls inputs ++ [polled] :=
    List.filterMap_append
  rw [published, hpolls, Loop.run_append, cameraFrames_append, site_state]
  rfl

theorem published_stream (other : Kind) (env : StreamPoll) :
    published v4l2Fd kind (inputs ++ [.stream other env]) = published v4l2Fd kind inputs := by
  have hpolls : polls (inputs ++ [.stream other env]) = polls inputs :=
    List.filterMap_append.trans (List.append_nil _)
  rw [published, hpolls, ← published]

/-- The mailbox of a stream gets the frames of the camera. -/
theorem posts_events : Mailbox.posts (events v4l2Fd kind inputs) = published v4l2Fd kind inputs := by
  induction inputs using List.reverseRecOn with
  | nil => rfl
  | append_singleton inputs last ih =>
      rw [events_append, Mailbox.posts_append, ih]
      cases last with
      | daemon polled =>
          rw [published_daemon]
          congr 1
          have hevent : eventOf kind
              ((system v4l2Fd).iterate ((system v4l2Fd).state inputs) (.daemon polled)) =
                (handedOver kind polled ((publishing v4l2Fd startSegment).output
                  ((system v4l2Fd).state inputs).site polled)).map .post := rfl
          rw [hevent]
          cases handedOver kind polled _ <;> rfl
      | stream other env =>
          rw [published_stream]
          have hevent : eventOf kind
              ((system v4l2Fd).iterate ((system v4l2Fd).state inputs) (.stream other env)) =
                if other = kind then some (.visit (visitOf env)) else none := rfl
          rw [hevent]
          by_cases hsame : other = kind
          · rw [if_pos hsame]
            exact List.append_nil _
          · rw [if_neg hsame]
            exact List.append_nil _

end Daemon

/-! ## An iteration of a stream loop -/

/-- The segment of a stream, whatever has been published to it. -/
structure Streams (kind : Kind) (hdr : K4wShmHeader) (frames : List Frame) : Prop where
  same : SameStream (startSegment kind) hdr
  represents : Represents hdr frames
  few : frames.length < 2 ^ 31
  sizes : ∀ frame ∈ frames, frame.size = kind.frameBytes
  latestTime : ∀ frame, frames.getLast? = some frame → hdr.timestampMs = frame.nowMs

section Reading

variable {kind : Kind} {hdr : K4wShmHeader} {frames : List Frame}

theorem Streams.seq_eq (hstreams : Streams kind hdr frames) :
    hdr.seq = UInt32.ofNat frames.length := by
  rw [← UInt32.toNat_inj, hstreams.represents.seq, UInt32.toNat_ofNat']

theorem Streams.header?_isSome (hstreams : Streams kind hdr frames) (env : StreamPoll) :
    (env.observation hdr).header?.isSome = env.mappedSize.any (headerBytes ≤ ·) := by
  obtain ⟨mappedSize, acquired⟩ := env
  have hmagic : hdr.magic = k4wShmMagic := hstreams.same.magic
  cases mappedSize with
  | none => rfl
  | some size =>
      simp only [Observation.header?, StreamPoll.observation, Option.map_some, hmagic, ne_eq,
        not_true, false_or, Option.any_some]
      by_cases hsize : size < headerBytes
      · simp [hsize]
      · simp [hsize, Nat.le_of_not_lt hsize]

/-- The gate lets through what the reader has not noted. -/
theorem Streams.notNew_eq (hstreams : Streams kind hdr frames) {state : LoopState} {noted : Nat}
    (hkeeps : KeepsInt state.lastSeq noted) (hnoted : noted ≤ frames.length) :
    notNew state hdr = !decide (noted < frames.length) := by
  have hfew := hstreams.few
  by_cases hnew : noted < frames.length
  · have hgate := isNewInt_iff hstreams.seq_eq hkeeps hnew (by omega)
    have hpositive : PositiveInt frames.length := by
      rw [PositiveInt, Nat.mod_eq_of_lt (by omega)]
      exact ⟨by omega, hfew⟩
    have hpassed := hgate.mpr hpositive
    rw [← notNew, Bool.not_eq_true'] at hpassed
    rw [hpassed]
    simp [hnew]
  · have hall : noted = frames.length := Nat.le_antisymm hnoted (Nat.le_of_not_lt hnew)
    have hold : notNew state hdr = true := by
      rw [notNew, hstreams.seq_eq]
      rw [KeepsInt, hall] at hkeeps
      split at hkeeps
      case isTrue hzero =>
          rw [hzero]
          simp
      case isFalse => simp [hkeeps]
    rw [hold]
    simp [hnew]

/-- The latest frame, raised by an iteration, is the whole frame. -/
theorem Streams.shows (hstreams : Streams kind hdr frames) {state : LoopState} {env : StreamPoll}
    {frame : Frame} {oni : OniFrame} {index : Nat} (hlast : frames.getLast? = some frame)
    (hraised : (mainloopIteration (streamOf kind) state (env.observation hdr).mapping
      env.acquired).2 = .raised oni) (hindex : state.frameId = Int32.ofNat index) :
    ShowsFrame kind frame oni index := by
  have hsame := hstreams.same
  have hw : hdr.w = 640 := hsame.w
  have hh : hdr.h = 480 := hsame.h
  have hfit : 3 * hdr.frameSize.toNat < 2 ^ 32 := by
    rw [hsame.frameSize]
    exact frameBytes_fit kind
  obtain ⟨size, hmapped⟩ : ∃ size, env.mappedSize = some size := by
    cases hmapped : env.mappedSize with
    | none => simp [StreamPoll.observation, hmapped, mainloopIteration] at hraised
    | some size => exact ⟨size, rfl⟩
  have hmapping : (env.observation hdr).mapping = some ⟨size, hdr⟩ := by
    simp [StreamPoll.observation, hmapped]
  rw [hmapping] at hraised
  have hframes : 1 ≤ frames.length := by
    cases frames with
    | nil => cases hlast
    | cons first rest => exact Nat.succ_le_succ (Nat.zero_le _)
  have hlatest : latest frames 1 = some frame := by
    rw [latest, ← List.getLast?_eq_getElem?]
    exact hlast
  have hlength : frame.len hdr.frameSize = kind.frameBytes.toNat := by
    have hsize : hdr.frameSize = kind.frameBytes := hsame.frameSize
    rw [Frame.len, hstreams.sizes frame (List.mem_of_getLast? hlast), hsize, Nat.min_self]
  have hcopied : (streamOf kind).copiedBytes hdr.w.toInt32 hdr.h.toInt32 =
      kind.frameBytes.toNat := by
    rw [hw, hh]
    cases kind <;> decide
  have hdata := fun i => @mainloopIteration_latest hdr frames frame hfit hstreams.represents
    hframes hlatest (streamOf kind) state size env.acquired oni hraised i
  rw [hcopied, hlength] at hdata
  obtain ⟨buffer, hfilled⟩ : ∃ buffer, oni = fillFrame (streamOf kind) state.frameId hdr buffer := by
    unfold mainloopIteration at hraised
    dsimp only at hraised
    split at hraised
    · cases hraised
    · split at hraised
      · cases hraised
      · split at hraised
        · cases hraised
        · split at hraised
          · cases hraised
          · cases hraised
            exact ⟨_, rfl⟩
  refine ⟨fun i hi => hdata i hi hi, ?_, ?_, ?_, ?_⟩
  · rw [hfilled, fillFrame, hstreams.latestTime frame hlast]
  · rw [hfilled, fillFrame, hw]
    rfl
  · rw [hfilled, fillFrame, hh]
    rfl
  · rw [hfilled]
    exact hindex

/-- What an iteration does to the loop, by the visit that it is for the mailbox. -/
theorem Streams.iteration_cases (hstreams : Streams kind hdr frames) {state : LoopState}
    {noted : Nat} (hkeeps : KeepsInt state.lastSeq noted) (hnoted : noted ≤ frames.length)
    (env : StreamPoll) :
    let result := mainloopIteration (streamOf kind) state (env.observation hdr).mapping
      env.acquired
    (result.1 = state ∧ result.2.frame? = none ∧
        (visitOf env = .misses ∨ frames.length ≤ noted)) ∨
      (noted < frames.length ∧ visitOf env = .spills ∧
        result.1 = ⟨hdr.seq.toInt32, state.frameId⟩ ∧ result.2.frame? = none) ∨
      (noted < frames.length ∧ visitOf env = .takes ∧
        result.1 = ⟨hdr.seq.toInt32, state.frameId + 1⟩ ∧ ∃ oni, result.2 = .raised oni) := by
  intro result
  have hheader := newHeader?_observation state hdr env
  rw [hstreams.header?_isSome, hstreams.notNew_eq hkeeps hnoted, Bool.not_not] at hheader
  by_cases hreaches : (env.mappedSize.any (headerBytes ≤ ·) && decide (noted < frames.length)) = true
  · rw [if_pos hreaches] at hheader
    obtain ⟨hmapped, hnew⟩ := Bool.and_eq_true_iff.mp hreaches
    have hresult := mainloopIteration_new (streamOf kind) state (env.observation hdr) hheader
    have hgeometry : HasGeometry hdr := by
      have hw : hdr.w = 640 := hstreams.same.w
      have hh : hdr.h = 480 := hstreams.same.h
      rw [HasGeometry, hw, hh]
      decide
    rw [if_neg (not_not_intro hgeometry)] at hresult
    have hacquired : (env.observation hdr).acquired = env.acquired := rfl
    rw [hacquired] at hresult
    right
    cases hsome : env.acquired with
    | none =>
        rw [hsome] at hresult
        left
        simp only [result, hsome, hresult]
        exact ⟨of_decide_eq_true hnew, by simp [visitOf, hmapped, hsome], trivial, rfl⟩
    | some buffer =>
        rw [hsome] at hresult
        right
        simp only [result, hsome, hresult]
        exact ⟨of_decide_eq_true hnew, by simp [visitOf, hmapped, hsome], trivial, _, rfl⟩
  · rw [if_neg hreaches] at hheader
    obtain ⟨outcome, hstopped, hresult⟩ :=
      mainloopIteration_stopped (streamOf kind) state (env.observation hdr) hheader
    have hsame : result = (state, outcome) := hresult
    rw [hsame]
    refine .inl ⟨rfl, ?_, ?_⟩
    · cases outcome with
      | raised oni => exact hstopped.elim
      | _ => rfl
    · rw [Bool.and_eq_true_iff, not_and_or] at hreaches
      rcases hreaches with hmissed | hold
      · exact .inl (if_neg hmissed)
      · exact .inr (Nat.le_of_not_lt fun hlt => hold (decide_eq_true hlt))

end Reading

/-! ## Runs -/

theorem ShowsFrames.append {kind : Kind} {frames : List Frame} {raised : List OniFrame}
    (hshows : ShowsFrames kind frames raised) {frame : Frame} {oni : OniFrame}
    (hlast : ShowsFrame kind frame oni raised.length) :
    ShowsFrames kind (frames ++ [frame]) (raised ++ [oni]) := by
  refine ⟨by simp [hshows.length], fun i first second hfirst hsecond => ?_⟩
  rcases Nat.lt_trichotomy i raised.length with hold | rfl | hpast
  · rw [List.getElem?_append_left (hshows.length ▸ hold)] at hfirst
    rw [List.getElem?_append_left hold] at hsecond
    exact hshows.each i first second hfirst hsecond
  · rw [hshows.length, List.getElem?_concat_length] at hfirst
    rw [List.getElem?_concat_length] at hsecond
    cases hfirst
    cases hsecond
    exact hlast
  · rw [List.getElem?_eq_none (by simpa using Nat.succ_le_of_lt hpast)] at hsecond
    cases hsecond

/-- The loop of a stream behaves as the reader of its mailbox. -/
structure Follows (v4l2Fd : Int32) (kind : Kind) (inputs : List Input) : Prop where
  keeps : KeepsInt (((system v4l2Fd).state inputs).readers kind).lastSeq
    (Mailbox.watched.state (events v4l2Fd kind inputs)).noted
  frameId : (((system v4l2Fd).state inputs).readers kind).frameId =
    Int32.ofNat (raised kind ((system v4l2Fd).run inputs)).length
  shows : ShowsFrames kind (Mailbox.taken (events v4l2Fd kind inputs))
    (raised kind ((system v4l2Fd).run inputs))

section Run

variable {v4l2Fd : Int32} {kind : Kind} {inputs : List Input}

/-- What the daemon has published is in the segment of the stream. -/
theorem streams_state (hfew : (published v4l2Fd kind inputs).length < 2 ^ 31) :
    Streams kind (((system v4l2Fd).state inputs).site.outputs.segments kind)
      (published v4l2Fd kind inputs) := by
  have hshows := (showsCamera_state v4l2Fd (polls inputs)).1
  rw [← site_state] at hshows
  have hsegment := hshows.segments kind
  refine ⟨?_, hshows.represents kind, hfew, ?_, ?_⟩
  · rw [hsegment]
    exact sameStream_writeFrames _ _
  · intro frame hmem
    obtain ⟨iteration, -, hframe⟩ := List.mem_filterMap.mp hmem
    exact size_of_handedOver hframe
  · intro frame hlast
    obtain ⟨front, hfront⟩ := List.getLast?_eq_some_iff.mp hlast
    change cameraFrames kind ((publishing v4l2Fd startSegment).run (polls inputs)) = _ at hfront
    rw [hsegment, hfront, writeFrames_append]
    rfl

theorem raised_append (input : Input) :
    raised kind ((system v4l2Fd).run (inputs ++ [input])) =
      raised kind ((system v4l2Fd).run inputs) ++
        (match (system v4l2Fd).output ((system v4l2Fd).state inputs) input with
          | .outcome other outcome => if other = kind then outcome.frame? else none
          | .calls _ => none).toList := by
  rw [raised, Loop.run_append, filterMap_concat]
  rfl

/-- An iteration of the daemon does not touch the loop. -/
theorem Follows.daemon (hfollows : Follows v4l2Fd kind inputs) (polled : Polled) :
    Follows v4l2Fd kind (inputs ++ [.daemon polled]) := by
  have hraised : raised kind ((system v4l2Fd).run (inputs ++ [.daemon polled])) =
      raised kind ((system v4l2Fd).run inputs) :=
    (raised_append _).trans (List.append_nil _)
  have hreader : ((system v4l2Fd).state (inputs ++ [.daemon polled])).readers kind =
      ((system v4l2Fd).state inputs).readers kind := by
    rw [Loop.state_append]
    rfl
  have hposted : ∀ posted : Option Frame,
      (Mailbox.watched.state (events v4l2Fd kind inputs ++
        (posted.map MailboxEvent.post).toList)).noted =
          (Mailbox.watched.state (events v4l2Fd kind inputs)).noted ∧
        Mailbox.taken (events v4l2Fd kind inputs ++
          (posted.map MailboxEvent.post).toList) =
            Mailbox.taken (events v4l2Fd kind inputs) := by
    intro posted
    cases posted with
    | none => rw [Option.map_none, Option.toList_none, List.append_nil]; exact ⟨rfl, rfl⟩
    | some frame =>
        rw [Option.map_some, Option.toList_some, Loop.state_append, Mailbox.taken_append]
        exact ⟨rfl, List.append_nil _⟩
  obtain ⟨hnoted, htaken⟩ := hposted (handedOver kind polled
    ((publishing v4l2Fd startSegment).output ((system v4l2Fd).state inputs).site polled))
  have hevents := events_append v4l2Fd kind inputs (.daemon polled)
  refine ⟨?_, ?_, ?_⟩
  · rw [hreader, hevents]
    exact hnoted ▸ hfollows.keeps
  · rw [hreader, hraised]
    exact hfollows.frameId
  · rw [hraised, hevents]
    exact htaken ▸ hfollows.shows

/-- Neither does an iteration of the other loop. -/
theorem Follows.other (hfollows : Follows v4l2Fd kind inputs) {other : Kind} (hother : other ≠ kind)
    (env : StreamPoll) : Follows v4l2Fd kind (inputs ++ [.stream other env]) := by
  have hraised : raised kind ((system v4l2Fd).run (inputs ++ [.stream other env])) =
      raised kind ((system v4l2Fd).run inputs) := by
    refine (raised_append _).trans ?_
    change _ ++ (if other = kind then _ else none).toList = _
    rw [if_neg hother]
    exact List.append_nil _
  have hreader : ((system v4l2Fd).state (inputs ++ [.stream other env])).readers kind =
      ((system v4l2Fd).state inputs).readers kind := by
    rw [Loop.state_append]
    exact Function.update_of_ne hother.symm _ _
  have hevents : events v4l2Fd kind (inputs ++ [.stream other env]) =
      events v4l2Fd kind inputs := by
    refine (events_append v4l2Fd kind inputs _).trans ?_
    change _ ++ (if other = kind then _ else none).toList = _
    rw [if_neg hother]
    exact List.append_nil _
  exact ⟨by rw [hreader, hevents]; exact hfollows.keeps, by rw [hreader, hraised]; exact hfollows.frameId,
    by rw [hraised, hevents]; exact hfollows.shows⟩

theorem exists_latest {frames : List Frame} {noted : Nat} (hnew : noted < frames.length) :
    ∃ frame, frames.getLast? = some frame := by
  have hne : frames ≠ [] := by
    rintro rfl
    exact absurd hnew (Nat.not_lt_zero _)
  exact ⟨_, List.getLast?_eq_some_getLast hne⟩

/-- After frames were noted, the loop keeps the number of the latest one. -/
theorem keepsInt_seq {hdr : K4wShmHeader} {frames : List Frame}
    (hstreams : Streams kind hdr frames) {noted : Nat} (hnew : noted < frames.length) :
    KeepsInt hdr.seq.toInt32 frames.length := by
  rw [KeepsInt, if_neg (by omega), hstreams.seq_eq]

theorem events_visit (env : StreamPoll) :
    events v4l2Fd kind (inputs ++ [.stream kind env]) =
      events v4l2Fd kind inputs ++ [.visit (visitOf env)] := by
  refine (events_append v4l2Fd kind inputs _).trans ?_
  change _ ++ (if kind = kind then _ else none).toList = _
  rw [if_pos rfl]
  rfl

/-- An iteration of the loop is the visit of the reader. -/
theorem Follows.visit (hfollows : Follows v4l2Fd kind inputs)
    (hfew : (published v4l2Fd kind inputs).length < 2 ^ 31) (env : StreamPoll) :
    Follows v4l2Fd kind (inputs ++ [.stream kind env]) := by
  have hstreams := streams_state hfew
  have hkept := Mailbox.kept_state (events v4l2Fd kind inputs)
  have hposted := hkept.posted.trans (posts_events v4l2Fd kind inputs)
  have hnoted := hkept.noted
  rw [hposted] at hnoted
  have hevents := @events_visit v4l2Fd kind inputs env
  have hraised := @raised_append v4l2Fd kind inputs (.stream kind env)
  have hreader : ((system v4l2Fd).state (inputs ++ [.stream kind env])).readers kind =
      (mainloopIteration (streamOf kind) (((system v4l2Fd).state inputs).readers kind)
        (env.observation (((system v4l2Fd).state inputs).site.outputs.segments kind)).mapping
        env.acquired).1 := by
    rw [Loop.state_append]
    exact Function.update_self _ _ _
  change _ = _ ++ (if kind = kind then (mainloopIteration (streamOf kind)
    (((system v4l2Fd).state inputs).readers kind)
    (env.observation (((system v4l2Fd).state inputs).site.outputs.segments kind)).mapping
    env.acquired).2.frame? else none).toList at hraised
  rw [if_pos rfl] at hraised
  have htaken := Mailbox.taken_append (events v4l2Fd kind inputs) (.visit (visitOf env))
  rcases hstreams.iteration_cases hfollows.keeps hnoted env with
    ⟨hstate, hframe, hquiet⟩ | ⟨hnew, hvisit, hstate, hframe⟩ | ⟨hnew, hvisit, hstate, oni, honi⟩
  · rw [← hposted] at hquiet
    have hstep := Mailbox.step_quiet hkept.noted hquiet
    rw [hframe, Option.toList_none, List.append_nil] at hraised
    rw [Loop.output, hstep, Option.toList_none, List.append_nil] at htaken
    rw [hstate] at hreader
    refine ⟨?_, ?_, ?_⟩
    · rw [hreader, hevents, Loop.state_append, Loop.next, hstep]
      exact hfollows.keeps
    · rw [hreader, hraised]
      exact hfollows.frameId
    · rw [hraised, hevents, htaken]
      exact hfollows.shows
  · rw [hvisit] at hevents htaken
    rw [hframe, Option.toList_none, List.append_nil] at hraised
    rw [hstate] at hreader
    refine ⟨?_, ?_, ?_⟩
    · rw [hreader, hevents, Loop.state_append]
      change KeepsInt _ (Mailbox.watched.state (events v4l2Fd kind inputs)).posted.length
      rw [hposted]
      exact keepsInt_seq hstreams hnew
    · rw [hreader, hraised]
      exact hfollows.frameId
    · rw [hraised, hevents, htaken]
      change ShowsFrames kind (_ ++ []) _
      rw [List.append_nil]
      exact hfollows.shows
  · rw [hvisit] at hevents htaken
    rw [honi] at hraised
    obtain ⟨frame, hlast⟩ := exists_latest hnew
    have hshows := hstreams.shows hlast honi hfollows.frameId
    rw [hstate] at hreader
    have hfresh : (Mailbox.watched.state (events v4l2Fd kind inputs)).fresh = some frame := by
      rw [Mailbox.fresh_of_lt (by rw [hposted]; exact hnew), hposted, hlast]
    refine ⟨?_, ?_, ?_⟩
    · rw [hreader, hevents, Loop.state_append]
      change KeepsInt _ (Mailbox.watched.state (events v4l2Fd kind inputs)).posted.length
      rw [hposted]
      exact keepsInt_seq hstreams hnew
    · rw [hreader, hraised]
      change _ + 1 = Int32.ofNat (_ ++ [oni]).length
      rw [hfollows.frameId, List.length_append, Int32.ofNat_add]
      rfl
    · rw [hraised, hevents, htaken]
      change ShowsFrames kind (_ ++ (Mailbox.watched.state _).fresh.toList) (_ ++ [oni])
      rw [hfresh]
      exact hfollows.shows.append hshows

theorem follows_state (hfew : (published v4l2Fd kind inputs).length < 2 ^ 31) :
    Follows v4l2Fd kind inputs := by
  induction inputs using List.reverseRecOn with
  | nil =>
      refine ⟨rfl, rfl, rfl, fun i frame oni hframe => ?_⟩
      cases hframe
  | append_singleton inputs last ih =>
      cases last with
      | daemon polled =>
          rw [published_daemon, List.length_append] at hfew
          exact (ih (by omega)).daemon polled
      | stream other env =>
          rw [published_stream] at hfew
          by_cases hsame : other = kind
          · rw [hsame]
            exact (ih hfew).visit hfew env
          · exact (ih hfew).other hsame env

/-- While the loop misses the segment, only posts come to its mailbox. -/
theorem events_blind (past : List Input) {later : List Input}
    (hmissed : ∀ env, .stream kind env ∈ later → visitOf env = .misses) :
    ∃ blind, events v4l2Fd kind (past ++ later) = events v4l2Fd kind past ++ blind ∧
      ∀ event ∈ blind, Mailbox.MailboxEvent.IsBlind event := by
  induction later using List.reverseRecOn with
  | nil => exact ⟨[], by simp, fun _ hevent => absurd hevent List.not_mem_nil⟩
  | append_singleton later last ih =>
      obtain ⟨blind, hblind, hall⟩ :=
        ih fun env hmem => hmissed env (List.mem_append_left _ hmem)
      have hlast : ∀ event, eventOf kind ((system v4l2Fd).iterate
          ((system v4l2Fd).state (past ++ later)) last) = some event →
          Mailbox.MailboxEvent.IsBlind event := by
        intro event hevent
        cases last with
        | daemon polled =>
            obtain ⟨frame, -, rfl⟩ := Option.map_eq_some_iff.mp hevent
            trivial
        | stream other env =>
            change (if other = kind then _ else none) = _ at hevent
            split at hevent
            case isTrue hsame =>
                have hvisit := hmissed env (by rw [hsame]; simp)
                cases hevent
                rw [hvisit]
                trivial
            case isFalse => cases hevent
      rw [← List.append_assoc, events_append, hblind, List.append_assoc]
      refine ⟨_, rfl, fun event hmem => ?_⟩
      rcases List.mem_append.mp hmem with hold | hnew
      · exact hall event hold
      · exact hlast event (Option.mem_toList.mp hnew)

/--
In every order of the iterations, what the applications get from a stream are
frames of the camera: whole, in their order, none twice, and numbered from 0.
-/
theorem raised_of_camera (v4l2Fd : Int32) (kind : Kind) (inputs : List Input)
    (hfew : (published v4l2Fd kind inputs).length < 2 ^ 31) :
    ∃ frames, frames.Sublist (published v4l2Fd kind inputs) ∧
      ShowsFrames kind frames (raised kind ((system v4l2Fd).run inputs)) := by
  have htaken := Mailbox.taken_sublist (events v4l2Fd kind inputs)
  rw [posts_events] at htaken
  exact ⟨_, htaken, (follows_state hfew).shows⟩

/--
When frames were published and the loop did not reach the segment since, its
next iteration that can map the segment and acquire a frame raises the newest
of them.
-/
theorem raised_newest (v4l2Fd : Int32) (kind : Kind) (past later : List Input) (env : StreamPoll)
    (hfew : (published v4l2Fd kind (past ++ later)).length < 2 ^ 31)
    (hmissed : ∀ env, .stream kind env ∈ later → visitOf env = .misses)
    (hnew : (published v4l2Fd kind past).length < (published v4l2Fd kind (past ++ later)).length)
    (htakes : visitOf env = .takes) :
    let before := raised kind ((system v4l2Fd).run (past ++ later))
    ∃ frame oni, (published v4l2Fd kind (past ++ later)).getLast? = some frame ∧
      raised kind ((system v4l2Fd).run (past ++ later ++ [.stream kind env])) =
        before ++ [oni] ∧
      ShowsFrame kind frame oni before.length := by
  intro before
  obtain ⟨blind, hblind, hall⟩ := @events_blind v4l2Fd kind past later hmissed
  have hposts : Mailbox.posts blind ≠ [] := by
    intro hnone
    have hall := posts_events v4l2Fd kind (past ++ later)
    rw [hblind, Mailbox.posts_append, hnone, List.append_nil, posts_events] at hall
    rw [hall] at hnew
    exact Nat.lt_irrefl _ hnew
  have hfresh := Mailbox.fresh_of_blind (events v4l2Fd kind past) hall hposts
  rw [← hblind, posts_events] at hfresh
  obtain ⟨frame, hlast⟩ := exists_latest hnew
  have hfollows := follows_state hfew
  have hvisited := hfollows.visit hfew env
  have htaken : Mailbox.taken (events v4l2Fd kind (past ++ later ++ [.stream kind env])) =
      Mailbox.taken (events v4l2Fd kind (past ++ later)) ++ [frame] := by
    rw [events_visit, Mailbox.taken_append, htakes]
    change _ ++ (Mailbox.watched.state _).fresh.toList = _
    rw [hfresh, hlast]
    rfl
  have hshows := hvisited.shows
  rw [htaken] at hshows
  have hlength := hshows.length
  have hraised := @raised_append v4l2Fd kind (past ++ later) (.stream kind env)
  obtain ⟨oni, honi⟩ : ∃ oni, raised kind ((system v4l2Fd).run
      (past ++ later ++ [.stream kind env])) = before ++ [oni] := by
    rw [hraised, List.length_append, List.length_append, ← hfollows.shows.length,
      List.length_singleton] at hlength
    obtain ⟨oni, honi⟩ := List.length_eq_one_iff.mp (Nat.add_left_cancel hlength)
    exact ⟨oni, by rw [hraised, honi]⟩
  refine ⟨frame, oni, hlast, honi, hshows.each before.length frame oni ?_ ?_⟩
  · rw [hfollows.shows.length, List.getElem?_concat_length]
  · rw [honi, List.getElem?_concat_length]

/-- A frame of the camera in each stream, and a loop that can raise it. -/
def seenOnce : List Input :=
  [.daemon ⟨.polled ⟨0, true⟩ ⟨0, true⟩, fun _ _ => 7, fun _ => 1⟩,
    .stream .depth ⟨some 2000000, some fun _ => 0⟩]

theorem raised_seenOnce : ∃ frames, frames.Sublist (published 0 .depth seenOnce) ∧
    ShowsFrames .depth frames (raised .depth ((system 0).run seenOnce)) :=
  raised_of_camera 0 .depth seenOnce (by decide)

theorem raised_newest_seenOnce :
    let later : List Input := [.daemon ⟨.polled ⟨0, true⟩ ⟨0, true⟩, fun _ _ => 7, fun _ => 1⟩]
    let before := raised .video ((system 0).run ([] ++ later))
    ∃ frame oni, (published 0 .video ([] ++ later)).getLast? = some frame ∧
      raised .video ((system 0).run ([] ++ later ++
        [.stream .video ⟨some 2000000, some fun _ => 0⟩])) = before ++ [oni] ∧
      ShowsFrame .video frame oni before.length :=
  raised_newest 0 .video [] _ _ (by decide) (by simp) (by decide) (by decide)

end Run

end K4W.OpenNI.CameraPath
