import K4W.Library.Machine

/-!
# Termination requests

The main thread of the daemon as a sequence of steps, from the installation
of the handlers to its exit, with `sig_handler` able to run between any two
of them.  Calls that touch neither `g_running` nor `g_state.running` are one
step each; their outcomes are free.
-/

namespace K4W.Daemon.Termination

open K4W.Library

inductive Signal where
  | sigint
  | sigterm
  | sigsegv
  deriving DecidableEq, Repr

/-- Program points of `main`, with `k4w_kinect_init` and `k4w_kinect_run` in line. -/
inductive Point where
  | install (signal : Signal)
  | acquirePidLock
  | firmwareSetup
  | configLoad
  -- `k4w_kinect_init`
  | memsetState
  | initFields
  | testDepth
  | resetCamera
  | retrySync (attempt : Nat)
  | createDepth
  | createVideo
  | createAudio
  | openV4l2
  | storeRunning
  | copyNames
  | initFailed
  -- back in `main`
  | motorInit
  | setKinectState
  | pwSourceInit
  | startAudio
  | socketInit
  | createSocketThread
  -- `k4w_kinect_run`
  | loopTest
  | loopBody
  | syncStop
  -- back in `main`
  | clearRunning
  | pwSourceStop
  | kinectStop
  | joinSocketThread
  | releasePidLock
  | exited
  deriving DecidableEq, Repr

/-- `handled` records that `sig_handler` has run for `SIGINT` or `SIGTERM`. -/
structure State where
  point : Point
  installed : List Signal
  gRunning : Bool
  running : Bool
  handled : Bool

def State.to (state : State) (point : Point) : State :=
  { state with point := point }

/-- One step of `main`; `ok` is the outcome of the call made at the point. -/
def mainStep (state : State) (ok : Bool) : Option State :=
  match state.point with
  | .install .sigint =>
      some { state.to (.install .sigterm) with installed := .sigint :: state.installed }
  | .install .sigterm =>
      some { state.to (.install .sigsegv) with installed := .sigterm :: state.installed }
  | .install .sigsegv =>
      some { state.to .acquirePidLock with installed := .sigsegv :: state.installed }
  | .acquirePidLock => some (state.to (if ok then .firmwareSetup else .exited))
  | .firmwareSetup => some (state.to .configLoad)
  | .configLoad => some (state.to .memsetState)
  | .memsetState => some { state.to .initFields with running := false }
  | .initFields => some (state.to .testDepth)
  | .testDepth => some (state.to (if ok then .createDepth else .resetCamera))
  | .resetCamera => some (state.to (.retrySync 0))
  | .retrySync attempt =>
      if ok then some (state.to .createDepth)
      else if attempt + 1 < 5 then some (state.to (.retrySync (attempt + 1)))
      else some (state.to .initFailed)
  | .createDepth => some (state.to (if ok then .createVideo else .initFailed))
  | .createVideo => some (state.to (if ok then .createAudio else .initFailed))
  | .createAudio => some (state.to .openV4l2)
  | .openV4l2 => some (state.to .storeRunning)
  | .storeRunning => some { state.to .copyNames with running := true }
  | .copyNames => some (state.to .motorInit)
  | .initFailed => some (state.to .exited)
  | .motorInit => some (state.to .setKinectState)
  | .setKinectState => some (state.to .pwSourceInit)
  | .pwSourceInit => some (state.to .startAudio)
  | .startAudio => some (state.to .socketInit)
  | .socketInit => some (state.to (if ok then .createSocketThread else .loopTest))
  | .createSocketThread => some (state.to .loopTest)
  | .loopTest => some (state.to (if state.running then .loopBody else .syncStop))
  | .loopBody => some (state.to (if ok then .loopTest else .loopBody))
  | .syncStop => some (state.to .clearRunning)
  | .clearRunning => some { state.to .pwSourceStop with gRunning := false }
  | .pwSourceStop => some (state.to .kinectStop)
  | .kinectStop => some { state.to .joinSocketThread with running := false }
  | .joinSocketThread => some (state.to .releasePidLock)
  | .releasePidLock => some (state.to .exited)
  | .exited => none

/-- `sig_handler`: `SIGSEGV` ends the process, the others ask for termination. -/
def sigHandler (state : State) (signal : Signal) : State :=
  match signal with
  | .sigsegv => state.to .exited
  | .sigint | .sigterm =>
      { state with gRunning := false, running := false, handled := true }

inductive Action where
  | main (ok : Bool)
  | signal (signal : Signal)
  deriving DecidableEq, Repr

def step (state : State) : Action → Option State
  | .main ok => mainStep state ok
  | .signal signal =>
      if signal ∈ state.installed ∧ state.point ≠ .exited then some (sigHandler state signal)
      else none

def launched : State where
  point := .install .sigint
  installed := []
  gRunning := true
  running := false
  handled := false

def mainThread : Machine State Action where
  Start state := state = launched
  step := step

/-- Once the handler has run, the loop condition of `k4w_kinect_run` is false. -/
def StopsPolling (state : State) : Prop :=
  state.handled → state.point = .loopTest → state.running = false

/-- `k4w_kinect_init` stores `running = true` only while no request is pending. -/
def StoresBeforeRequest (state : State) : Action → Prop
  | .main _ => state.point = .storeRunning → state.handled = false
  | .signal _ => True

instance (state : State) : (action : Action) → Decidable (StoresBeforeRequest state action)
  | .main _ => inferInstanceAs (Decidable (_ → _))
  | .signal _ => .isTrue trivial

/-! ## The request survives once initialisation is over -/

/-- Points before the last write of `running` by `k4w_kinect_init`. -/
def Point.initialising : Point → Bool
  | .install _ | .acquirePidLock | .firmwareSetup | .configLoad | .memsetState | .initFields
  | .testDepth | .resetCamera | .retrySync _ | .createDepth | .createVideo | .createAudio
  | .openV4l2 | .storeRunning => true
  | _ => false

/-- `running` is up only after initialisation and while no request is recorded. -/
def RunsUnrequested (state : State) : Prop :=
  state.running = true → state.point.initialising = false ∧ state.handled = false

/-- All that a step of `main` can do to `running` and to the program point. -/
theorem mainStep_cases {state next : State} {ok : Bool}
    (hstep : mainStep state ok = some next) :
    next.handled = state.handled ∧
      (next.running = false ∨
        (state.point = .storeRunning ∧ next.point = .copyNames) ∨
        (next.running = state.running ∧
          (state.point.initialising = false → next.point.initialising = false))) := by
  unfold mainStep at hstep
  cases hpoint : state.point with
  | install signal =>
      rw [hpoint] at hstep
      cases signal <;> cases hstep <;>
        exact ⟨rfl, .inr (.inr ⟨rfl, fun h => by simp [Point.initialising] at h⟩)⟩
  | storeRunning =>
      rw [hpoint] at hstep
      cases hstep
      exact ⟨rfl, .inr (.inl ⟨rfl, rfl⟩)⟩
  | retrySync attempt =>
      rw [hpoint] at hstep
      dsimp only at hstep
      split at hstep
      · cases hstep
        exact ⟨rfl, .inr (.inr ⟨rfl, fun h => by simp [Point.initialising] at h⟩)⟩
      · split at hstep <;> cases hstep <;>
          exact ⟨rfl, .inr (.inr ⟨rfl, fun h => by simp [Point.initialising] at h⟩)⟩
  | exited =>
      rw [hpoint] at hstep
      cases hstep
  | loopTest =>
      rw [hpoint] at hstep
      cases hstep
      refine ⟨rfl, .inr (.inr ⟨rfl, fun _ => ?_⟩)⟩
      cases hrunning : state.running <;> simp [State.to, Point.initialising]
  | memsetState | clearRunning | kinectStop =>
      rw [hpoint] at hstep
      cases hstep
      simp [State.to, Point.initialising]
  | _ =>
      rw [hpoint] at hstep
      cases hstep
      cases ok <;> simp [State.to, Point.initialising]

theorem runsUnrequested_step {state next : State} {action : Action}
    (hinv : RunsUnrequested state) (hbefore : StoresBeforeRequest state action)
    (hstep : step state action = some next) : RunsUnrequested next := by
  intro hrunning
  cases action with
  | signal signal =>
      simp only [step] at hstep
      split at hstep
      · cases hstep
        cases signal with
        | sigsegv => exact ⟨rfl, (hinv hrunning).2⟩
        | sigint | sigterm => cases hrunning
      · cases hstep
  | main ok =>
      obtain ⟨hhandled, hdown | ⟨hpoint, hnext⟩ | ⟨hsame, hpast⟩⟩ := mainStep_cases hstep
      · rw [hdown] at hrunning
        cases hrunning
      · rw [hnext, hhandled]
        exact ⟨rfl, hbefore hpoint⟩
      · rw [hsame] at hrunning
        rw [hhandled]
        exact ⟨hpast (hinv hrunning).1, (hinv hrunning).2⟩

/-- A request that does not come before the store in `k4w_kinect_init` ends the polling. -/
theorem stopsPolling_of_storesBeforeRequest {first state : State}
    {trace : List (State × Action)} (hstart : mainThread.Start first)
    (hrun : mainThread.Run first trace state)
    (hmeets : Machine.Meets StoresBeforeRequest trace) : StopsPolling state := by
  subst hstart
  have hinv : RunsUnrequested state :=
    hrun.preserves hmeets (fun h => by cases h) runsUnrequested_step
  intro hhandled _
  cases hrunning : state.running with
  | false => rfl
  | true =>
      have hnone := (hinv hrunning).2
      rw [hhandled] at hnone
      cases hnone

/-- `main` up to the first test of the loop condition, with no failing call. -/
def startup : List Action := List.replicate 21 (.main true)

/-- A signal in the polling loop meets the condition and stops the loop. -/
theorem stopsPolling_after_startup : ∃ state,
    mainThread.play launched (startup ++ [.signal .sigterm]) = some state ∧
      state.handled = true ∧ state.point = .loopTest ∧ StopsPolling state := by
  obtain ⟨state, hplay, hhandled, hpoint⟩ : ∃ state,
      mainThread.play launched (startup ++ [.signal .sigterm]) = some state ∧
        state.handled = true ∧ state.point = .loopTest :=
    ⟨_, rfl, rfl, rfl⟩
  exact ⟨state, hplay, hhandled, hpoint,
    stopsPolling_of_storesBeforeRequest rfl (Machine.run_of_play hplay) (by decide)⟩

/-- A signal during the first depth test is forgotten when initialisation ends. -/
theorem not_stopsPolling_of_signalDuringInit :
    ¬ ∀ state, mainThread.Reachable state → StopsPolling state := by
  intro hall
  let actions := List.replicate 8 (.main true) ++ [.signal .sigint] ++
    List.replicate 13 (Action.main true)
  let lost (state : State) : Bool :=
    state.handled && state.point = .loopTest && state.running
  have hplay : (mainThread.play launched actions).any lost = true := by decide
  obtain ⟨state, hreach, hlost⟩ := Machine.exists_reachable_of_play rfl hplay
  simp only [lost, Bool.and_eq_true, decide_eq_true_eq] at hlost
  obtain ⟨⟨hhandled, hpoint⟩, hrunning⟩ := hlost
  have hstopped := hall state hreach hhandled hpoint
  rw [hrunning] at hstopped
  cases hstopped

/--
Every request recorded before the store is lost: if no call fails and no
second signal comes, `k4w_kinect_run` begins a new polling iteration.
-/
theorem exists_lostRequest {state : State} (hpoint : state.point = .storeRunning)
    (hhandled : state.handled = true) :
    ∃ last, mainThread.play state (List.replicate 8 (.main true)) = some last ∧
      ¬ StopsPolling last := by
  obtain ⟨point, installed, gRunning, running, handled⟩ := state
  cases hpoint
  refine ⟨_, rfl, fun hstops => ?_⟩
  have hdown := hstops hhandled rfl
  cases hdown

end K4W.Daemon.Termination
