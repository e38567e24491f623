import K4W.Daemon.PauseProtocol

/-!
# The life of a capture handle

Three places close `g_pcm`: the pause, the reopen, and the exit of the audio
thread.  The flags keep the first two apart.  Nothing keeps the pause apart
from the exit, which the shutdown brings about while the socket thread may be
in the middle of a request.
-/

namespace K4W.Daemon.Threads

open K4W.Library

/-- No call is made on a handle that an earlier call has closed. -/
def CallsSafe : List PcmCall → Prop
  | [] => True
  | call :: earlier => .close call.handle ∉ earlier ∧ CallsSafe earlier

/-- Each handle is closed at most once, and no call on it comes after its close. -/
def LifecycleKept (state : State) : Prop :=
  (∀ handle, state.calls.count (.close handle) ≤ 1) ∧
    ∀ later call earlier, state.calls = later ++ call :: earlier →
      .close call.handle ∉ earlier

/--
The audio thread leaves its loop only while no pause has an acknowledged drop
and its own `g_pcm = NULL` still ahead of it.
-/
def LeavesAlone (state : State) : Action → Prop
  | .audio _ => state.audio = .loopTest → state.gAudioRunning = false →
      ¬ (state.socket.handover = true ∧ state.gAudioDropped = true)
  | _ => True

instance (state : State) : (action : Action) → Decidable (LeavesAlone state action)
  | .audio _ => inferInstanceAs (Decidable (_ → _ → ¬ (_ ∧ _)))
  | .main _ | .socket | .signal => .isTrue trivial

theorem callsSafe_append {later earlier : List PcmCall} {call : PcmCall}
    (hsafe : CallsSafe (later ++ call :: earlier)) : .close call.handle ∉ earlier := by
  induction later with
  | nil => exact hsafe.1
  | cons head rest ih => exact ih hsafe.2

theorem count_close_le_one {calls : List PcmCall} (hsafe : CallsSafe calls)
    (handle : Handle) : calls.count (.close handle) ≤ 1 := by
  induction calls with
  | nil => exact Nat.zero_le 1
  | cons call earlier ih =>
      by_cases hclose : call = .close handle
      · have hnone : earlier.count (.close handle) = 0 := by
          apply List.count_eq_zero.mpr
          have hfirst := hsafe.1
          rw [hclose] at hfirst
          exact hfirst
        rw [hclose, List.count_cons_self]
        omega
      · rw [List.count_cons_of_ne hclose]
        exact ih hsafe.2

theorem CallsSafe.lifecycleKept {state : State} (hsafe : CallsSafe state.calls) :
    LifecycleKept state := by
  refine ⟨count_close_le_one hsafe, fun later call earlier hcalls => ?_⟩
  rw [hcalls] at hsafe
  exact callsSafe_append hsafe

/-! ## The invariant -/

/--
`g_pcm` and the loaded arguments name handles that are not closed, up to the
store of `NULL` that follows a close.
-/
structure LifecycleInvariant (state : State) : Prop where
  pause : PauseInvariant state
  numbered : Numbered state
  parked : state.socket.handover = true → state.gAudioDropped = true → Parked state
  live : ∀ handle, state.gPcm = some handle → .close handle ∈ state.calls →
    state.audio.closed = true ∨ state.socket = .storeNull
  audioArgument : ∀ handle, state.audio.argument = some handle →
    .close handle ∉ state.calls
  socketArgument : ∀ handle, state.socket.argument = some handle →
    .close handle ∉ state.calls
  safe : CallsSafe state.calls

theorem circling_argument {point : AudioPoint} (h : point.circling = true) :
    point.argument = none ∧ point.loading = false ∧ point.closed = false := by
  cases point <;> simp_all [AudioPoint.circling, AudioPoint.argument, AudioPoint.loading,
    AudioPoint.closed]

/-- While the socket thread closes, the audio thread has no part in the handle. -/
theorem LifecycleInvariant.apart {state : State} (hinv : LifecycleInvariant state)
    (hclosing : state.socket.closing = true) :
    state.audio.argument = none ∧ state.audio.loading = false ∧ state.audio.closed = false :=
  circling_argument
    (hinv.parked (SocketPoint.handover_of_closing hclosing) (hinv.pause.dropped hclosing)).1

theorem not_closing_of_argument {state : State} {handle : Handle}
    (hinv : LifecycleInvariant state) (hargument : state.audio.argument = some handle) :
    state.socket.closing = false := by
  by_contra hclosing
  have hnone := (hinv.apart (by simpa using hclosing)).1
  rw [hargument] at hnone
  cases hnone

theorem loading_not_closed {point : AudioPoint} (h : point.loading = true) :
    point.closed = false := by
  cases point <;> simp_all [AudioPoint.loading, AudioPoint.closed]

/-! ## One step -/

/-- A paused audio thread that may not leave its loop stays parked once it acknowledges. -/
theorem audioStep_parked {state next : State} {ok : Bool}
    (hstep : audioStep state ok = some next) (hpaused : state.gAudioPaused = true)
    (hbefore : state.gAudioDropped = true → Parked state)
    (hstays : state.audio = .loopTest → state.gAudioDropped = true →
      state.gAudioRunning = true)
    (hdropped : next.gAudioDropped = true) : Parked next := by
  unfold audioStep at hstep
  split at hstep
  all_goals
    (try split at hstep) <;> (try split at hstep) <;> cases hstep <;>
      simp_all [Parked, AudioPoint.circling, callPcm_eq, State.openPcm]

theorem lifecycle_audio {state next : State} {ok : Bool} (hinv : LifecycleInvariant state)
    (hleaves : LeavesAlone state (.audio ok)) (hstep : audioStep state ok = some next) :
    LifecycleInvariant next := by
  have hframe := audioStep_frame hstep
  refine ⟨pauseInvariant_audio hinv.pause hstep, numbered_audio hinv.numbered hstep,
    ?_, ?_, ?_, ?_, ?_⟩
  · rw [hframe.socket]
    intro hhandover
    have hpaused := hinv.pause.paused (SocketPoint.pausing_of_handover hhandover)
    refine audioStep_parked hstep hpaused (hinv.parked hhandover) (fun hloop hdropped => ?_)
    by_contra hdown
    exact hleaves hloop (by simpa using hdown) ⟨hhandover, hdropped⟩
  · intro handle hhandle hclosed
    rw [hframe.socket]
    rcases audioStep_gPcm hstep with ⟨-, hsame, hkeeps⟩ | ⟨-, hnull, -⟩ | ⟨-, hnew, hcalls⟩
    · have hlive := hinv.live handle (hsame ▸ hhandle)
      rcases audioStep_calls hstep with hcalls | ⟨_, -, huse | ⟨-, hnow⟩⟩
      · exact (hlive (hcalls ▸ hclosed)).imp hkeeps id
      · exact (hlive (by simpa [huse] using hclosed)).imp hkeeps id
      · exact .inl hnow
    · rw [hnull] at hhandle
      cases hhandle
    · rw [hnew] at hhandle
      cases hhandle
      rw [hcalls] at hclosed
      exact absurd (hinv.numbered.closed _ hclosed) (Nat.lt_irrefl _)
  · intro handle hargument
    rcases audioStep_argument hstep with hnone | ⟨hloading, hloaded, -, hcalls, -⟩
    · rw [hnone] at hargument
      cases hargument
    · rw [hcalls]
      intro hclosed
      rcases hinv.live handle (hloaded ▸ hargument) hclosed with hpoint | hnull
      · rw [loading_not_closed hloading] at hpoint
        cases hpoint
      · have happart := (hinv.apart (by rw [hnull]; rfl)).2.1
        rw [hloading] at happart
        cases happart
  · rw [hframe.socket]
    intro handle hargument
    have hopen := hinv.socketArgument handle hargument
    rcases audioStep_calls hstep with hcalls | ⟨called, hcalled, huse | ⟨hclose, -⟩⟩
    · rw [hcalls]
      exact hopen
    · simpa [huse] using hopen
    · have hclosing : state.socket.closing = true := by
        revert hargument
        cases state.socket <;> simp [SocketPoint.argument, SocketPoint.closing]
      rw [not_closing_of_argument hinv hcalled] at hclosing
      cases hclosing
  · rcases audioStep_calls hstep with hcalls | ⟨called, hcalled, huse | ⟨hclose, -⟩⟩
    · rw [hcalls]
      exact hinv.safe
    · rw [huse]
      exact ⟨hinv.audioArgument called hcalled, hinv.safe⟩
    · rw [hclose]
      exact ⟨hinv.audioArgument called hcalled, hinv.safe⟩

theorem socketStep_handover {state : State}
    (hhandover : (socketStep state).socket.handover = true)
    (hdropped : (socketStep state).gAudioDropped = true) :
    state.socket.handover = true ∧ state.gAudioDropped = true := by
  revert hhandover hdropped
  unfold socketStep
  split <;> (try split) <;> simp_all [SocketPoint.handover, callPcm_eq]

theorem lifecycle_socket {state : State} (hinv : LifecycleInvariant state) :
    LifecycleInvariant (socketStep state) := by
  have hframe := socketStep_frame state
  refine ⟨pauseInvariant_socket hinv.pause, numbered_socket hinv.numbered, ?_, ?_, ?_, ?_, ?_⟩
  · intro hhandover hdropped
    obtain ⟨hbefore, hold⟩ := socketStep_handover hhandover hdropped
    unfold Parked
    rw [hframe.audio, hframe.wasPaused]
    exact hinv.parked hbefore hold
  · intro handle hhandle hclosed
    rw [hframe.audio]
    rcases socketStep_calls state with hcalls | ⟨_, -, hnull, -⟩
    · rcases socketStep_gPcm state with hsame | ⟨-, hnone⟩
      · rcases hinv.live handle (hsame ▸ hhandle) (hcalls ▸ hclosed) with hpoint | hnull
        · exact .inl hpoint
        · simp [socketStep, hnull] at hhandle
      · rw [hnone] at hhandle
        cases hhandle
    · exact .inr hnull
  · rw [hframe.audio]
    intro handle hargument
    rcases socketStep_calls state with hcalls | ⟨_, hcall, -⟩
    · rw [hcalls]
      exact hinv.audioArgument handle hargument
    · have hopen := not_closing_of_argument hinv hargument
      rw [hcall] at hopen
      cases hopen
  · intro handle hargument hclosed
    obtain ⟨hload, hgPcm⟩ := socketStep_argument hargument
    have hcalls : (socketStep state).calls = state.calls := by simp [socketStep, hload]
    have happart := (hinv.apart (by rw [hload]; rfl)).2.2
    rcases hinv.live handle hgPcm (hcalls ▸ hclosed) with hpoint | hnull
    · rw [happart] at hpoint
      cases hpoint
    · rw [hload] at hnull
      cases hnull
  · rcases socketStep_calls state with hcalls | ⟨handle, hcall, -, hclose⟩
    · rw [hcalls]
      exact hinv.safe
    · rw [hclose]
      exact ⟨hinv.socketArgument handle (by rw [hcall]; rfl), hinv.safe⟩

theorem lifecycle_main {state next : State} {ok : Bool} (hinv : LifecycleInvariant state)
    (hstep : mainStep state ok = some next) : LifecycleInvariant next := by
  have hframe := mainStep_frame hstep
  refine ⟨pauseInvariant_main hinv.pause hstep, numbered_main hinv.numbered hstep,
    ?_, ?_, ?_, ?_, ?_⟩
  · unfold Parked
    rw [hframe.socket, hframe.gAudioDropped, hframe.audio, hframe.wasPaused]
    exact hinv.parked
  · rw [hframe.gPcm, hframe.calls, hframe.audio, hframe.socket]
    exact hinv.live
  · rw [hframe.audio, hframe.calls]
    exact hinv.audioArgument
  · rw [hframe.socket, hframe.calls]
    exact hinv.socketArgument
  · rw [hframe.calls]
    exact hinv.safe

theorem lifecycle_step {state next : State} {action : Action}
    (hinv : LifecycleInvariant state) (hleaves : LeavesAlone state action)
    (hstep : step state action = some next) : LifecycleInvariant next := by
  cases action with
  | main ok => exact lifecycle_main hinv hstep
  | audio ok => exact lifecycle_audio hinv hleaves hstep
  | socket => cases hstep; exact lifecycle_socket hinv
  | signal =>
      have hpause := pauseInvariant_step hinv.pause hstep
      have hnumbered := numbered_step hinv.numbered hstep
      cases hstep
      exact ⟨hpause, hnumbered, hinv.parked, hinv.live, hinv.audioArgument,
        hinv.socketArgument, hinv.safe⟩

/-! ## Whole runs -/

theorem lifecycle_started : LifecycleInvariant started := by
  refine ⟨pauseInvariant_started, numbered_started, fun h => ?_, fun _ h => ?_, fun _ h => ?_,
    fun _ h => ?_, trivial⟩
  all_goals cases h

/-- If the audio thread leaves its loop alone, no handle is used or closed after its close. -/
theorem lifecycleKept_of_leavesAlone {first last : State} {trace : List (State × Action)}
    (hstart : fromStart.Start first) (hrun : fromStart.Run first trace last)
    (hmeets : Machine.Meets LeavesAlone trace) : LifecycleKept last := by
  subst hstart
  have hinv : LifecycleInvariant last :=
    hrun.preserves hmeets lifecycle_started lifecycle_step
  exact hinv.safe.lifecycleKept

/-- A request is served, then the shutdown finds the handle reopened and closes it. -/
def servedThenStopped : List Action :=
  List.replicate 22 (.audio true) ++ List.replicate 4 .socket ++
    List.replicate 6 (.audio true) ++ List.replicate 11 .socket ++
    List.replicate 24 (.audio true) ++ .signal :: List.replicate 4 (.main true) ++
    List.replicate 7 (.audio true)

theorem lifecycleKept_servedThenStopped : ∃ last,
    fromStart.play started servedThenStopped = some last ∧ last.audio = .returned ∧
      last.opened = 2 ∧ LifecycleKept last := by
  obtain ⟨last, hplay, hreturned, hopened⟩ : ∃ last,
      fromStart.play started servedThenStopped = some last ∧ last.audio = .returned ∧
        last.opened = 2 :=
    ⟨_, rfl, rfl, rfl⟩
  exact ⟨last, hplay, hreturned, hopened,
    lifecycleKept_of_leavesAlone rfl (Machine.run_of_play hplay) (by decide)⟩

/--
The shutdown lands between the acknowledged drop and `g_pcm = NULL` of a
pause: the pause and the exit of the audio thread close the same handle.
-/
theorem not_lifecycleKept_of_stopDuringPause :
    ¬ ∀ state, fromStart.Reachable state → LifecycleKept state := by
  intro hall
  let actions : List Action :=
    List.replicate 22 (.audio true) ++ List.replicate 4 .socket ++
      List.replicate 6 (.audio true) ++ .signal :: List.replicate 4 (.main true) ++
      List.replicate 5 .socket ++ List.replicate 4 (.audio true)
  let closedTwice (state : State) : Bool := state.calls.count (.close 0) = 2
  have hplay : (fromStart.play started actions).any closedTwice = true := by decide
  obtain ⟨state, hreach, htwice⟩ := Machine.exists_reachable_of_play rfl hplay
  have honce := (hall state hreach).1 0
  rw [of_decide_eq_true htwice] at honce
  omega

/-! ## Nothing weaker is enough -/

/-- Points between the test of `g_pcm` and the acknowledgement of the drop. -/
def AudioPoint.dropping : AudioPoint → Bool
  | .loadDrop | .callDrop _ | .storeDropped => true
  | _ => false

/-- The pause has its acknowledgement: its next call closes `handle`, or has closed it. -/
structure BoundToClose (state : State) (handle : Handle) : Prop where
  handover : state.socket.handover = true
  dropped : state.gAudioDropped = true
  gPcm : state.gPcm = some handle
  loaded : ∀ pcm, state.socket = .callClose pcm → pcm = some handle
  closed : state.socket = .storeNull → .close handle ∈ state.calls

/-- A drop is acknowledged for a handle that `g_pcm` still names. -/
structure DropInvariant (state : State) : Prop where
  dropping : state.audio.dropping = true → ∃ handle, state.gPcm = some handle
  bound : state.socket.handover = true → state.gAudioDropped = true →
    ∃ handle, BoundToClose state handle

/-- A step of another thread leaves the pause bound. -/
theorem BoundToClose.frame {state next : State} {handle : Handle}
    (hbound : BoundToClose state handle) (hsocket : next.socket = state.socket)
    (hdropped : next.gAudioDropped = true) (hgPcm : next.gPcm = state.gPcm)
    (hcalls : next.calls = state.calls) : BoundToClose next handle := by
  refine ⟨?_, hdropped, hgPcm ▸ hbound.gPcm, ?_, ?_⟩
  · rw [hsocket]
    exact hbound.handover
  · rw [hsocket]
    exact hbound.loaded
  · rw [hsocket, hcalls]
    exact hbound.closed

theorem circling_not_dropping {point : AudioPoint} (h : point.circling = true) :
    point.dropping = false := by
  cases point <;> simp_all [AudioPoint.circling, AudioPoint.dropping]

theorem audioStep_circling {state next : State} {ok : Bool}
    (hstep : audioStep state ok = some next) (hcircling : state.audio.circling = true) :
    next.gPcm = state.gPcm ∧ next.calls = state.calls := by
  unfold audioStep at hstep
  split at hstep
  all_goals
    (try split at hstep) <;> (try split at hstep) <;> cases hstep <;>
      simp_all [AudioPoint.circling]

/-- The flag is raised by the one point that stores it. -/
theorem audioStep_acknowledges {state next : State} {ok : Bool}
    (hstep : audioStep state ok = some next) (hdropped : next.gAudioDropped = true) :
    state.gAudioDropped = true ∨ (state.audio = .storeDropped ∧ next.gPcm = state.gPcm) := by
  unfold audioStep at hstep
  split at hstep
  all_goals
    (try split at hstep) <;> (try split at hstep) <;> cases hstep <;>
      simp_all [callPcm_eq, State.openPcm]

theorem audioStep_dropping {state next : State} {ok : Bool}
    (hstep : audioStep state ok = some next) (hdropping : next.audio.dropping = true) :
    next.gPcm = state.gPcm ∧
      (state.audio.dropping = true ∨ ∃ handle, state.gPcm = some handle) := by
  unfold audioStep at hstep
  split at hstep
  all_goals
    (try split at hstep) <;> (try split at hstep) <;> cases hstep <;>
      simp_all [AudioPoint.dropping, callPcm_eq, Option.isSome_iff_exists]

theorem drop_audio {state next : State} {ok : Bool} (hinv : DropInvariant state)
    (hlife : LifecycleInvariant state) (hstep : audioStep state ok = some next) :
    DropInvariant next := by
  have hframe := audioStep_frame hstep
  constructor
  · intro hdropping
    obtain ⟨hsame, hbefore⟩ := audioStep_dropping hstep hdropping
    rw [hsame]
    rcases hbefore with hbefore | hnamed
    · exact hinv.dropping hbefore
    · exact hnamed
  · rw [hframe.socket]
    intro hhandover hdropped
    by_cases hold : state.gAudioDropped = true
    · obtain ⟨handle, hbound⟩ := hinv.bound hhandover hold
      obtain ⟨hsame, hcalls⟩ := audioStep_circling hstep (hlife.parked hhandover hold).1
      exact ⟨handle, hbound.frame hframe.socket hdropped hsame hcalls⟩
    · rcases audioStep_acknowledges hstep hdropped with habsurd | ⟨hpoint, hsame⟩
      · exact absurd habsurd hold
      · obtain ⟨handle, hnamed⟩ := hinv.dropping (by rw [hpoint]; rfl)
        have hwaiting : state.socket.closing ≠ true := fun h => hold (hlife.pause.dropped h)
        refine ⟨handle, ?_, hdropped, hsame ▸ hnamed, ?_, ?_⟩
        all_goals rw [hframe.socket]
        · exact hhandover
        · exact fun pcm hcall => absurd (by rw [hcall]; rfl) hwaiting
        · exact fun hnull => absurd (by rw [hnull]; rfl) hwaiting

/-- Steps the socket thread still needs until it has closed the handle. -/
def SocketPoint.stepsToClose : SocketPoint → Nat
  | .storeMotorPaused => 6
  | .waitDrop _ => 5
  | .testPcm => 4
  | .testDropped => 3
  | .loadClose => 2
  | .callClose _ => 1
  | _ => 0

theorem stepsToClose_lt (point : SocketPoint) : point.stepsToClose < 7 := by
  cases point <;> simp [SocketPoint.stepsToClose]

/-- A pause that has its acknowledgement goes straight on to the close. -/
theorem socketStep_towardClose {state : State} {handle : Handle}
    (hbound : BoundToClose state handle) (hopen : state.socket ≠ .storeNull) :
    BoundToClose (socketStep state) handle ∧
      (socketStep state).socket.stepsToClose < state.socket.stepsToClose := by
  obtain ⟨hhandover, hdropped, hgPcm, hloaded, -⟩ := hbound
  cases hpoint : state.socket with
  | callClose pcm =>
      have hpcm : pcm = some handle := hloaded pcm hpoint
      subst hpcm
      refine ⟨⟨?_, ?_, ?_, ?_, ?_⟩, ?_⟩ <;>
        simp [socketStep, hpoint, callPcm_eq, SocketPoint.handover, SocketPoint.stepsToClose,
          hdropped, hgPcm]
  | storeNull => exact absurd hpoint hopen
  | storeMotorPaused | waitDrop _ | testPcm | testDropped | loadClose =>
      refine ⟨⟨?_, ?_, ?_, ?_, ?_⟩, ?_⟩ <;>
        simp [socketStep, hpoint, SocketPoint.handover, SocketPoint.stepsToClose,
          hdropped, hgPcm]
  | _ => simp [hpoint, SocketPoint.handover] at hhandover

theorem drop_socket {state : State} (hinv : DropInvariant state)
    (hlife : LifecycleInvariant state) : DropInvariant (socketStep state) := by
  have hframe := socketStep_frame state
  constructor
  · rw [hframe.audio]
    intro hdropping
    obtain ⟨handle, hnamed⟩ := hinv.dropping hdropping
    rcases socketStep_gPcm state with hsame | ⟨hnull, -⟩
    · exact ⟨handle, hsame ▸ hnamed⟩
    · have hclosing : state.socket.closing = true := by rw [hnull]; rfl
      have hparked := hlife.parked (SocketPoint.handover_of_closing hclosing)
        (hlife.pause.dropped hclosing)
      rw [circling_not_dropping hparked.1] at hdropping
      cases hdropping
  · intro hhandover hdropped
    obtain ⟨hbefore, hold⟩ := socketStep_handover hhandover hdropped
    obtain ⟨handle, hbound⟩ := hinv.bound hbefore hold
    have hopen : state.socket ≠ .storeNull := by
      intro hnull
      simp [socketStep, hnull, SocketPoint.handover] at hhandover
    exact ⟨handle, (socketStep_towardClose hbound hopen).1⟩

theorem drop_step {state next : State} {action : Action} (hinv : DropInvariant state)
    (hlife : LifecycleInvariant state) (hstep : step state action = some next) :
    DropInvariant next := by
  cases action with
  | main ok =>
      have hframe := mainStep_frame hstep
      refine ⟨?_, ?_⟩
      · rw [hframe.audio, hframe.gPcm]
        exact hinv.dropping
      · rw [hframe.socket, hframe.gAudioDropped]
        intro hhandover hdropped
        obtain ⟨handle, hbound⟩ := hinv.bound hhandover hdropped
        refine ⟨handle, hbound.frame hframe.socket ?_ hframe.gPcm hframe.calls⟩
        rw [hframe.gAudioDropped]
        exact hdropped
  | audio ok => exact drop_audio hinv hlife hstep
  | socket => cases hstep; exact drop_socket hinv hlife
  | signal =>
      cases hstep
      refine ⟨hinv.dropping, fun hhandover hdropped => ?_⟩
      obtain ⟨handle, hbound⟩ := hinv.bound hhandover hdropped
      exact ⟨handle, hbound.frame rfl hdropped rfl rfl⟩

theorem drop_started : DropInvariant started := by
  constructor <;> intro h <;> cases h

/-- The socket thread alone closes the handle that the pause is bound to close. -/
theorem run_closes (steps : Nat) {state : State} {handle : Handle}
    (hbound : BoundToClose state handle) (hsteps : state.socket.stepsToClose < steps) :
    ∃ trace next, fromStart.Run state trace next ∧ next.audio = state.audio ∧
      next.gPcm = some handle ∧ .close handle ∈ next.calls := by
  induction steps generalizing state with
  | zero => exact absurd hsteps (Nat.not_lt_zero _)
  | succ steps ih =>
      by_cases hnull : state.socket = .storeNull
      · exact ⟨[], state, .refl state, rfl, hbound.gPcm, hbound.closed hnull⟩
      · obtain ⟨hnext, hless⟩ := socketStep_towardClose hbound hnull
        obtain ⟨trace, last, hrun, haudio, hgPcm, hclosed⟩ :=
          ih hnext (Nat.lt_of_lt_of_le hless (Nat.le_of_lt_succ hsteps))
        have hfirst : fromStart.Run state [(state, .socket)] (socketStep state) := .single rfl
        refine ⟨_, last, hfirst.trans hrun, ?_, hgPcm, hclosed⟩
        rw [haudio, (socketStep_frame state).audio]

/-- The exit of the audio thread closes what `g_pcm` names, closed or not. -/
theorem run_exit {state : State} {handle : Handle} (hexit : state.audio = .exitTest)
    (hgPcm : state.gPcm = some handle) :
    ∃ trace next, fromStart.Run state trace next ∧
      next.calls = .close handle :: state.calls := by
  have hplay : fromStart.play state (List.replicate 3 (.audio true)) =
      some { state with audio := .exitNull, calls := .close handle :: state.calls } := by
    simp [Machine.play, List.replicate, fromStart, step, audioStep, hexit, hgPcm, callPcm_eq]
  exact ⟨_, _, Machine.run_of_play hplay, rfl⟩

/--
The first step that the condition excludes leads some run to a handle closed
twice: no weaker condition on the steps will do.
-/
theorem exists_doubleClose_of_not_leavesAlone {first state next : State}
    {trace : List (State × Action)} {action : Action} (hstart : fromStart.Start first)
    (hrun : fromStart.Run first trace state) (hmeets : Machine.Meets LeavesAlone trace)
    (hfails : ¬ LeavesAlone state action) (hstep : fromStart.step state action = some next) :
    ∃ after last, fromStart.Run next after last ∧ ¬ LifecycleKept last := by
  subst hstart
  let holds (state : State) : Prop := LifecycleInvariant state ∧ DropInvariant state
  have hnext : ∀ {state action next}, holds state → LeavesAlone state action →
      fromStart.step state action = some next → holds next :=
    fun hholds hleaves hstep =>
      ⟨lifecycle_step hholds.1 hleaves hstep, drop_step hholds.2 hholds.1 hstep⟩
  have hinv : holds state := hrun.preserves hmeets ⟨lifecycle_started, drop_started⟩ hnext
  cases action with
  | audio ok =>
      have hleaving : state.audio = .loopTest ∧ state.gAudioRunning = false ∧
          state.socket.handover = true ∧ state.gAudioDropped = true := by
        by_contra hnot
        exact hfails fun hloop hdown hduring => hnot ⟨hloop, hdown, hduring⟩
      obtain ⟨hloop, hdown, hhandover, hdropped⟩ := hleaving
      obtain ⟨handle, hbound⟩ := hinv.2.bound hhandover hdropped
      have hnext : next = { state with audio := .exitTest } := by
        simpa [fromStart, step, audioStep, hloop, hdown] using hstep.symm
      subst hnext
      have hkept : BoundToClose { state with audio := .exitTest } handle :=
        hbound.frame rfl hdropped rfl rfl
      obtain ⟨closing, middle, hclose, hexit, hgPcm, hclosed⟩ :=
        run_closes 7 hkept (stepsToClose_lt _)
      obtain ⟨leaving, last, hleave, hcalls⟩ := run_exit hexit hgPcm
      refine ⟨_, last, hclose.trans hleave, fun hlife => ?_⟩
      exact hlife.2 [] (.close handle) middle.calls hcalls hclosed
  | _ => exact absurd trivial hfails

end K4W.Daemon.Threads
