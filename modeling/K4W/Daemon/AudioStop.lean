import K4W.Daemon.Threads

/-!
# Stopping the audio thread

`k4w_kinect_stop` lowers `g_audio_running` and then joins the audio thread,
which raises that flag itself once its set-up is over.  The stop is kept on a
run exactly when the audio thread never raises the flag after the stop.
-/

namespace K4W.Daemon.AudioStop

open K4W.Library
open K4W.Daemon.Threads

/-- After the stop is stored, `g_audio_running` is down. -/
def FlagDown (state : State) : Prop :=
  state.main.stopStored = true → state.gAudioRunning = false

def isRead : AudioPoint → Bool
  | .callRead _ => true
  | _ => false

/-- A call of `snd_pcm_readi` made after the stop is stored. -/
def isLateRead : State × Action → Bool
  | (state, .audio _) => isRead state.audio && state.main.stopStored
  | _ => false

def lateReads (trace : List (State × Action)) : Nat :=
  trace.countP isLateRead

/-- The stop holds in every state of the run, and at most one more read is made. -/
def StopKept (trace : List (State × Action)) (last : State) : Prop :=
  (∀ entry ∈ trace, FlagDown entry.1) ∧ FlagDown last ∧ lateReads trace ≤ 1

/-- The audio thread raises `g_audio_running` only before the stop is stored. -/
def RaisesBeforeStop (state : State) : Action → Prop
  | .audio _ => state.audio = .storeRunning → state.main.stopStored = false
  | _ => True

instance (state : State) : (action : Action) → Decidable (RaisesBeforeStop state action)
  | .audio _ => inferInstanceAs (Decidable (_ → _))
  | .main _ | .socket | .signal => .isTrue trivial

/-- Points from which a read can follow without a new test of `g_audio_running`. -/
def mayRead : AudioPoint → Bool
  | .testPaused | .testPcm | .loadRead | .callRead _ => true
  | _ => false

/-! ## One step -/

theorem audioStep_gAudioRunning {state next : State} {ok : Bool}
    (hstep : audioStep state ok = some next) (hpoint : state.audio ≠ .storeRunning) :
    next.gAudioRunning = state.gAudioRunning := by
  unfold audioStep at hstep
  split at hstep
  all_goals
    (try split at hstep) <;> (try split at hstep) <;> cases hstep <;>
      simp_all [callPcm_eq, State.openPcm]

/-- A read is entered by a successful test of the flag, and left by the read itself. -/
theorem audioStep_mayRead {state next : State} {ok : Bool}
    (hstep : audioStep state ok = some next) (hnext : mayRead next.audio = true) :
    (state.gAudioRunning = true ∨ mayRead state.audio = true) ∧
      isRead state.audio = false := by
  unfold audioStep at hstep
  split at hstep
  all_goals
    (try split at hstep) <;> (try split at hstep) <;> cases hstep <;>
      simp_all [mayRead, isRead]

/-- The stop is stored by one step, which lowers the flag; no other step does either. -/
theorem mainStep_stop {state next : State} {ok : Bool}
    (hstep : mainStep state ok = some next) :
    (next.main.stopStored = state.main.stopStored ∧
        next.gAudioRunning = state.gAudioRunning) ∨
      (state.main.stopStored = false ∧ next.gAudioRunning = false) := by
  unfold mainStep depthFailed at hstep
  split at hstep
  case h_8 hpoint =>
      cases hstep
      exact .inr ⟨by simp [hpoint, MainPoint.stopStored], rfl⟩
  all_goals
    (try dsimp only at hstep)
    (try split at hstep) <;> (try split at hstep) <;> (try split at hstep) <;> cases hstep
    all_goals exact .inl ⟨by simp_all [MainPoint.stopStored], rfl⟩

@[simp] theorem lateReads_append (trace : List (State × Action))
    (state : State) (action : Action) :
    lateReads (trace ++ [(state, action)]) =
      lateReads trace + if isLateRead (state, action) then 1 else 0 := by
  simp [lateReads, List.countP_append, List.countP_singleton]

/-! ## Whole runs -/

/-- How many late reads a run has made, and whether one more can follow. -/
structure StopProgress (trace : List (State × Action)) (state : State) : Prop where
  down : FlagDown state
  early : state.main.stopStored = false → lateReads trace = 0
  pending : mayRead state.audio = true → lateReads trace = 0
  bound : lateReads trace ≤ 1

theorem stopProgress_main {trace : List (State × Action)} {state next : State} {ok : Bool}
    (hprogress : StopProgress trace state) (hstep : mainStep state ok = some next) :
    StopProgress (trace ++ [(state, .main ok)]) next := by
  have hreads : lateReads (trace ++ [(state, .main ok)]) = lateReads trace := by
    simp [isLateRead]
  have haudio := (mainStep_frame hstep).audio
  refine ⟨?_, ?_, ?_, ?_⟩
  · intro hstored
    rcases mainStep_stop hstep with ⟨hsame, hflag⟩ | ⟨-, hdown⟩
    · rw [hflag]
      exact hprogress.down (hsame ▸ hstored)
    · exact hdown
  · intro hnext
    rw [hreads]
    rcases mainStep_stop hstep with ⟨hsame, -⟩ | ⟨hbefore, -⟩
    · exact hprogress.early (hsame ▸ hnext)
    · exact hprogress.early hbefore
  · intro hmay
    rw [hreads]
    exact hprogress.pending (haudio ▸ hmay)
  · rw [hreads]
    exact hprogress.bound

theorem stopProgress_audio {trace : List (State × Action)} {state next : State} {ok : Bool}
    (hprogress : StopProgress trace state) (hbefore : RaisesBeforeStop state (.audio ok))
    (hstep : audioStep state ok = some next) :
    StopProgress (trace ++ [(state, .audio ok)]) next := by
  have hmain := (audioStep_frame hstep).main
  have hlate : lateReads (trace ++ [(state, .audio ok)]) =
      lateReads trace + if isRead state.audio && state.main.stopStored then 1 else 0 := by
    rw [lateReads_append]
    rfl
  cases hstored : state.main.stopStored with
  | false =>
      -- before the stop no read is late and the flag may be anything
      have hnone : lateReads (trace ++ [(state, .audio ok)]) = 0 := by
        rw [hlate, hprogress.early hstored]
        simp [hstored]
      refine ⟨fun h => ?_, fun _ => hnone, fun _ => hnone, by omega⟩
      rw [hmain, hstored] at h
      cases h
  | true =>
      have hflag : state.gAudioRunning = false := hprogress.down hstored
      have hpoint : state.audio ≠ .storeRunning := by
        intro hpoint
        have hearly := hbefore hpoint
        rw [hstored] at hearly
        cases hearly
      refine ⟨fun _ => ?_, fun h => ?_, fun hmay => ?_, ?_⟩
      · rw [audioStep_gAudioRunning hstep hpoint]
        exact hflag
      · rw [hmain, hstored] at h
        cases h
      · obtain ⟨hraised | hmay, hread⟩ := audioStep_mayRead hstep hmay
        · rw [hflag] at hraised
          cases hraised
        · rw [hlate, hread, hprogress.pending hmay]
          rfl
      · rw [hlate]
        cases hread : isRead state.audio with
        | false => simpa using hprogress.bound
        | true =>
            have hmay : mayRead state.audio = true := by
              revert hread
              cases state.audio <;> simp [isRead, mayRead]
            rw [hprogress.pending hmay, hstored]
            decide

theorem stopProgress_step {trace : List (State × Action)} {state next : State}
    {action : Action} (hprogress : StopProgress trace state)
    (hbefore : RaisesBeforeStop state action) (hstep : step state action = some next) :
    StopProgress (trace ++ [(state, action)]) next := by
  cases action with
  | main ok => exact stopProgress_main hprogress hstep
  | audio ok => exact stopProgress_audio hprogress hbefore hstep
  | socket =>
      cases hstep
      have hframe := socketStep_frame state
      refine ⟨?_, ?_, ?_, ?_⟩
      · unfold FlagDown
        rw [hframe.main, hframe.gAudioRunning]
        exact hprogress.down
      · rw [hframe.main]
        simpa [isLateRead] using hprogress.early
      · rw [hframe.audio]
        simpa [isLateRead] using hprogress.pending
      · simpa [isLateRead] using hprogress.bound
  | signal =>
      cases hstep
      exact ⟨hprogress.down, by simpa [isLateRead] using hprogress.early,
        by simpa [isLateRead] using hprogress.pending,
        by simpa [isLateRead] using hprogress.bound⟩

/-- Sufficiency, with every state on the way. -/
theorem stopProgress_run {first last : State} {trace : List (State × Action)}
    (hstart : fromStart.Start first) (hrun : fromStart.Run first trace last)
    (hmeets : Machine.Meets RaisesBeforeStop trace) :
    (∀ entry ∈ trace, FlagDown entry.1) ∧ StopProgress trace last := by
  let progress (trace : List (State × Action)) (state : State) : Prop :=
    (∀ entry ∈ trace, FlagDown entry.1) ∧ StopProgress trace state
  have hfirst : progress [] first := by
    rw [hstart]
    refine ⟨fun _ hentry => absurd hentry List.not_mem_nil, fun hstored => ?_, fun _ => rfl,
      fun _ => rfl, by decide⟩
    cases hstored
  have hnext : ∀ {trace state action next}, progress trace state →
      RaisesBeforeStop state action → fromStart.step state action = some next →
      progress (trace ++ [(state, action)]) next :=
    fun hprogress hraises hstep =>
      ⟨Machine.Run.everywhere_append hprogress.1 hprogress.2.down,
        stopProgress_step hprogress.2 hraises hstep⟩
  exact hrun.preserves_traced hmeets hfirst hnext

/-- A flag raised after the stop is seen raised in the very next state. -/
theorem raisesBeforeStop_of_flagDown {first last : State} {trace : List (State × Action)}
    (hrun : fromStart.Run first trace last)
    (hdown : ∀ entry ∈ trace, FlagDown entry.1) (hlast : FlagDown last) :
    Machine.Meets RaisesBeforeStop trace := by
  refine hrun.meets_of_everywhere hdown hlast ?_
  rintro state action next hstep - hnext
  cases action with
  | audio ok =>
      intro hpoint
      have hraised : next.gAudioRunning = true ∧ next.main = state.main := by
        simp only [fromStart, step, audioStep, hpoint] at hstep
        cases hstep
        exact ⟨rfl, rfl⟩
      cases hstored : state.main.stopStored with
      | false => rfl
      | true =>
          have hfalse := hnext (hraised.2 ▸ hstored)
          rw [hraised.1] at hfalse
          cases hfalse
  | _ => trivial

/-- The stop is kept exactly on the runs that raise the flag only before it. -/
theorem stopKept_iff_raisesBeforeStop {first last : State} {trace : List (State × Action)}
    (hstart : fromStart.Start first) (hrun : fromStart.Run first trace last) :
    StopKept trace last ↔ Machine.Meets RaisesBeforeStop trace := by
  constructor
  · rintro ⟨hdown, hlast, -⟩
    exact raisesBeforeStop_of_flagDown hrun hdown hlast
  · intro hmeets
    obtain ⟨hdown, hprogress⟩ := stopProgress_run hstart hrun hmeets
    exact ⟨hdown, hprogress.down, hprogress.bound⟩

/-- The audio thread from its first statement to its first test of the flag. -/
def setUp : List Action := List.replicate 22 (.audio true)

/-- The main thread from the signal to the stored stop. -/
def stop : List Action := .signal :: List.replicate 4 (.main true)

/-- A stop that lands between the test of the flag and the read allows one more read. -/
def stopInLoop : List Action :=
  setUp ++ List.replicate 3 (.audio true) ++ stop ++ List.replicate 7 (.audio true)

theorem stopKept_stopInLoop : ∃ last, fromStart.play started stopInLoop = some last ∧
    last.audio = .returned ∧ lateReads (fromStart.traceOf started stopInLoop) = 1 ∧
      StopKept (fromStart.traceOf started stopInLoop) last := by
  obtain ⟨last, hplay, hreturned⟩ : ∃ last,
      fromStart.play started stopInLoop = some last ∧ last.audio = .returned :=
    ⟨_, rfl, rfl⟩
  refine ⟨last, hplay, hreturned, by decide, ?_⟩
  exact (stopKept_iff_raisesBeforeStop rfl (Machine.run_of_play hplay)).mpr (by decide)

/-- A stop during the set-up is undone when the audio thread raises the flag. -/
theorem not_stopKept_of_stopDuringSetUp :
    ¬ ∀ first trace last, fromStart.Start first → fromStart.Run first trace last →
      StopKept trace last := by
  intro hall
  let raised (state : State) : Bool := state.main.stopStored && state.gAudioRunning
  have hplay : (fromStart.play started (stop ++ setUp)).any raised = true := by decide
  obtain ⟨last, ⟨first, trace, hstart, hrun⟩, hraised⟩ :=
    Machine.exists_reachable_of_play rfl hplay
  obtain ⟨hstored, hup⟩ := (Bool.and_eq_true _ _).mp hraised
  have hdown := (hall first trace last hstart hrun).2.1 hstored
  rw [hup] at hdown
  cases hdown

end K4W.Daemon.AudioStop
