import K4W.Daemon.PauseProtocol

/-!
# Exclusive use of the device by a motor command

Between pause and resume the camera runtime must be stopped and the capture
handle closed.  The pause raises its flags but waits for nothing from the
polling loop, and it gives up on the audio thread after three seconds.  It
keeps its promise on every run in which each pause meets both threads at a
point where the flags still bind them.
-/

namespace K4W.Daemon.Threads

open K4W.Library

/-- No ALSA capture handle is open. -/
def Quiet (state : State) : Prop :=
  ∀ handle, ¬ state.isOpen handle

theorem quiet_iff (state : State) :
    Quiet state ↔ ∀ handle < state.opened, .close handle ∈ state.calls := by
  simp [Quiet, State.isOpen]

instance (state : State) : Decidable (Quiet state) :=
  decidable_of_iff _ (quiet_iff state).symm

/-- While a motor command runs, the camera and the capture handle are released. -/
def Exclusive (state : State) : Prop :=
  state.socket = .motor → state.syncRunning = false ∧ Quiet state

/-- The polling loop has found `motor_paused` down and still has a poll to make. -/
def MainPoint.polling : MainPoint → Bool
  | .pollDepth | .pollVideo => true
  | _ => false

/-- `snd_pcm_open` can follow without a new test of `g_audio_paused`. -/
def AudioPoint.mayOpen : AudioPoint → Bool
  | .discover | .rebind | .findCard | .firstOpen | .testClose | .loadClose | .callClose _
  | .storeNull | .reopen _ => true
  | _ => false

/-- The pause is about to go on without closing the handle itself. -/
def givesUp (state : State) : Bool :=
  match state.socket with
  | .testPcm => state.gPcm.isNone
  | .testDropped => !state.gAudioDropped
  | _ => false

/--
What the pause takes for granted: it stops the runtime only while the polling
loop has no poll pending, and it goes on without closing the handle only if
none is open and the audio thread is not on its way to open one.
-/
def MeetsBoundThreads (state : State) : Action → Prop
  | .socket =>
      (state.socket = .stopSync → state.main.polling = false) ∧
        (givesUp state = true → Quiet state ∧ state.audio.mayOpen = false)
  | _ => True

instance (state : State) : (action : Action) → Decidable (MeetsBoundThreads state action)
  | .socket => inferInstanceAs (Decidable ((_ → _) ∧ (_ → _)))
  | .main _ | .audio _ | .signal => .isTrue trivial

/-! ## One handle at a time -/

/-- Points of the audio thread at which every handle it has opened is closed. -/
def AudioPoint.afterClose : AudioPoint → Bool
  | .discover | .rebind | .findCard | .firstOpen | .storeNull | .reopen _ | .exitNull => true
  | _ => false

/-- The argument of a pending `snd_pcm_close` of the audio thread. -/
def AudioPoint.closeArgument : AudioPoint → Option (Option Handle)
  | .callClose pcm | .exitClose pcm => some pcm
  | _ => none

def AudioPoint.opening : AudioPoint → Bool
  | .firstOpen | .reopen _ => true
  | _ => false

theorem closeArgument_of_opening {point : AudioPoint} {pcm : Option Handle}
    (hopening : point.opening = true) : point.closeArgument ≠ some pcm := by
  cases point <;> simp_all [AudioPoint.opening, AudioPoint.closeArgument]

/-- At most one handle is open; `g_pcm` and a pending close argument name it. -/
structure HandleInvariant (state : State) : Prop where
  named : ∀ handle, state.isOpen handle → state.gPcm = some handle
  audioArgument : ∀ pcm, state.audio.closeArgument = some pcm →
    ∀ handle, state.isOpen handle → pcm = some handle
  audioClosed : state.audio.afterClose = true → Quiet state
  socketArgument : ∀ pcm, state.socket = .callClose pcm →
    ∀ handle, state.isOpen handle → pcm = some handle
  socketClosed : state.socket = .storeNull → Quiet state

theorem isOpen_of_callPcm {state : State} {call : Handle → PcmCall} {pcm : Option Handle}
    {handle : Handle} (hopen : (state.callPcm call pcm).isOpen handle) :
    state.isOpen handle := by
  cases pcm with
  | none => exact hopen
  | some closed => exact ⟨hopen.1, fun h => hopen.2 (List.mem_cons_of_mem _ h)⟩

/-- A handle passed to `snd_pcm_close` is no longer open. -/
theorem not_isOpen_of_close {state : State} {pcm : Option Handle} {handle : Handle}
    (hopen : (state.callPcm .close pcm).isOpen handle) : pcm ≠ some handle := by
  rintro rfl
  exact hopen.2 (List.mem_cons_self ..)

/-- Handles come only from `snd_pcm_open`, which stores them in `g_pcm`. -/
theorem audioStep_isOpen {state next : State} {ok : Bool} {handle : Handle}
    (hstep : audioStep state ok = some next) (hopen : next.isOpen handle) :
    state.isOpen handle ∨ (state.audio.opening = true ∧ next.gPcm = some handle) := by
  unfold audioStep at hstep
  split at hstep
  all_goals
    (try split at hstep) <;> (try split at hstep) <;> cases hstep <;>
      first
      | exact .inl hopen
      | exact .inl (isOpen_of_callPcm hopen)
      | skip
  all_goals
    have hle : handle ≤ state.opened := Nat.le_of_lt_succ hopen.1
    rcases Nat.lt_or_eq_of_le hle with hlt | rfl
    · exact .inl ⟨hlt, hopen.2⟩
    · exact .inr ⟨by simp_all [AudioPoint.opening], rfl⟩

/-- `g_pcm` changes only where every handle is closed. -/
theorem audioStep_gPcm_eq {state next : State} {ok : Bool}
    (hstep : audioStep state ok = some next) :
    next.gPcm = state.gPcm ∨ state.audio.afterClose = true := by
  unfold audioStep at hstep
  split at hstep
  all_goals
    (try split at hstep) <;> (try split at hstep) <;> cases hstep <;>
      simp_all [AudioPoint.afterClose, callPcm_eq]

/-- A close argument is loaded from `g_pcm` by a step that changes no handle. -/
theorem audioStep_closeArgument {state next : State} {ok : Bool} {pcm : Option Handle}
    (hstep : audioStep state ok = some next) (hpcm : next.audio.closeArgument = some pcm) :
    pcm = state.gPcm ∧ state.audio.opening = false := by
  unfold audioStep at hstep
  split at hstep
  all_goals
    (try split at hstep) <;> (try split at hstep) <;> cases hstep <;>
      simp_all [AudioPoint.closeArgument, AudioPoint.opening]

/-- A point with every handle closed follows a close, or another such point, or a null test. -/
theorem audioStep_afterClose {state next : State} {ok : Bool}
    (hstep : audioStep state ok = some next) (hclosed : next.audio.afterClose = true) :
    (∃ pcm, state.audio.closeArgument = some pcm ∧
        ∀ handle, next.isOpen handle → pcm ≠ some handle) ∨
      ((state.audio.afterClose = true ∨ state.gPcm = none) ∧
        ∀ handle, next.isOpen handle → state.isOpen handle) := by
  unfold audioStep at hstep
  split at hstep
  case h_18 pcm hpoint =>
      cases hstep
      exact .inl ⟨pcm, by simp [hpoint, AudioPoint.closeArgument],
        fun handle => not_isOpen_of_close⟩
  case h_28 pcm hpoint =>
      cases hstep
      exact .inl ⟨pcm, by simp [hpoint, AudioPoint.closeArgument],
        fun handle => not_isOpen_of_close⟩
  all_goals
    (try split at hstep) <;> (try split at hstep) <;> cases hstep <;>
      simp_all [AudioPoint.afterClose, State.isOpen]

theorem handleInvariant_audio {state next : State} {ok : Bool}
    (hinv : HandleInvariant state) (hpause : PauseInvariant state)
    (hstep : audioStep state ok = some next) : HandleInvariant next := by
  have hframe := audioStep_frame hstep
  -- an opening audio thread excludes a socket thread that closes
  have hkept : ∀ handle, next.isOpen handle → state.socket.closing = true →
      state.isOpen handle := by
    intro handle hopen hclosing
    rcases audioStep_isOpen hstep hopen with hold | ⟨hopening, -⟩
    · exact hold
    · exfalso
      rcases hpause.parked_or_leaving hclosing with ⟨hcircling, -⟩ | hleaving
      all_goals
        revert hopening
        cases hpoint : state.audio <;>
          simp_all [AudioPoint.opening, AudioPoint.circling, AudioPoint.leaving]
  refine ⟨?_, ?_, ?_, ?_, ?_⟩
  · intro handle hopen
    rcases audioStep_isOpen hstep hopen with hold | ⟨-, hnew⟩
    · rcases audioStep_gPcm_eq hstep with hsame | hclosed
      · rw [hsame]
        exact hinv.named handle hold
      · exact absurd hold (hinv.audioClosed hclosed handle)
    · exact hnew
  · intro pcm hpcm handle hopen
    obtain ⟨rfl, hopening⟩ := audioStep_closeArgument hstep hpcm
    rcases audioStep_isOpen hstep hopen with hold | ⟨hyes, -⟩
    · exact hinv.named handle hold
    · rw [hopening] at hyes
      cases hyes
  · intro hclosed handle hopen
    rcases audioStep_afterClose hstep hclosed with ⟨pcm, hpcm, hne⟩ | ⟨hbefore, hold⟩
    · rcases audioStep_isOpen hstep hopen with hold | ⟨hopening, -⟩
      · exact hne handle hopen (hinv.audioArgument pcm hpcm handle hold)
      · exact absurd hpcm (closeArgument_of_opening hopening)
    · rcases hbefore with hafter | hnull
      · exact hinv.audioClosed hafter handle (hold handle hopen)
      · have hnamed := hinv.named handle (hold handle hopen)
        rw [hnull] at hnamed
        cases hnamed
  · rw [hframe.socket]
    intro pcm hpcm handle hopen
    exact hinv.socketArgument pcm hpcm handle (hkept handle hopen (by simp [hpcm, SocketPoint.closing]))
  · rw [hframe.socket]
    intro hnull handle hopen
    exact hinv.socketClosed hnull handle (hkept handle hopen (by simp [hnull, SocketPoint.closing]))

theorem handleInvariant_main {state next : State} {ok : Bool} (hinv : HandleInvariant state)
    (hstep : mainStep state ok = some next) : HandleInvariant next := by
  have hframe := mainStep_frame hstep
  have hopen : next.isOpen = state.isOpen := by
    unfold State.isOpen
    rw [hframe.opened, hframe.calls]
  refine ⟨?_, ?_, ?_, ?_, ?_⟩
  · rw [hopen, hframe.gPcm]
    exact hinv.named
  · rw [hopen, hframe.audio]
    exact hinv.audioArgument
  · unfold Quiet
    rw [hopen, hframe.audio]
    exact hinv.audioClosed
  · rw [hopen, hframe.socket]
    exact hinv.socketArgument
  · unfold Quiet
    rw [hopen, hframe.socket]
    exact hinv.socketClosed

/-- The socket thread opens no handle. -/
theorem socketStep_isOpen {state : State} {handle : Handle}
    (hopen : (socketStep state).isOpen handle) : state.isOpen handle := by
  unfold socketStep at hopen
  split at hopen
  all_goals
    (try split at hopen) <;>
      first
      | exact hopen
      | exact isOpen_of_callPcm hopen

theorem handleInvariant_socket {state : State} (hinv : HandleInvariant state) :
    HandleInvariant (socketStep state) := by
  have hframe := socketStep_frame state
  have hkept := @socketStep_isOpen state
  refine ⟨?_, ?_, ?_, ?_, ?_⟩
  · intro handle hopen
    have hgPcm : (socketStep state).gPcm = state.gPcm ∨ state.socket = .storeNull := by
      unfold socketStep
      split <;> (try split) <;> simp_all [callPcm_eq]
    rcases hgPcm with hsame | hnull
    · rw [hsame]
      exact hinv.named handle (hkept hopen)
    · exact absurd (hkept hopen) (hinv.socketClosed hnull handle)
  · rw [hframe.audio]
    exact fun pcm hpcm handle hopen => hinv.audioArgument pcm hpcm handle (hkept hopen)
  · rw [hframe.audio]
    exact fun hclosed handle hopen => hinv.audioClosed hclosed handle (hkept hopen)
  · intro pcm hpcm handle hopen
    have hloaded : pcm = state.gPcm := by
      unfold socketStep at hpcm
      split at hpcm <;> (try split at hpcm) <;> simp_all
    rw [hloaded]
    exact hinv.named handle (hkept hopen)
  · intro hnull handle hopen
    have hcall : ∃ pcm, state.socket = .callClose pcm := by
      unfold socketStep at hnull
      split at hnull <;> (try split at hnull) <;> simp_all
    obtain ⟨pcm, hpcm⟩ := hcall
    have hclosed : (state.callPcm .close pcm).isOpen handle := by
      simpa [socketStep, hpcm, State.isOpen, callPcm_eq] using hopen
    exact not_isOpen_of_close hclosed (hinv.socketArgument pcm hpcm handle (hkept hopen))

theorem handleInvariant_step {state next : State} {action : Action}
    (hinv : HandleInvariant state) (hpause : PauseInvariant state)
    (hstep : step state action = some next) : HandleInvariant next := by
  cases action with
  | main ok => exact handleInvariant_main hinv hstep
  | audio ok => exact handleInvariant_audio hinv hpause hstep
  | socket => cases hstep; exact handleInvariant_socket hinv
  | signal => cases hstep; exact ⟨hinv.1, hinv.2, hinv.3, hinv.4, hinv.5⟩

theorem handleInvariant_capturing : HandleInvariant capturing := by
  refine ⟨fun handle hopen => ?_, fun pcm h => ?_, fun h => ?_, fun pcm h => ?_, fun h => ?_⟩
  · have hzero : handle = 0 := Nat.lt_one_iff.mp hopen.1
    rw [hzero]
    rfl
  all_goals cases h

/-! ## Exclusion along runs that meet bound threads -/

/-- The pause is done with the capture handle. -/
def SocketPoint.released : SocketPoint → Bool
  | .stopSync | .settle | .motor => true
  | _ => false

/-- The pause has stopped the runtime. -/
def SocketPoint.synced : SocketPoint → Bool
  | .settle | .motor => true
  | _ => false

structure ExclusionInvariant (state : State) : Prop where
  pause : PauseInvariant state
  handles : HandleInvariant state
  released : state.socket.released = true → Quiet state ∧ state.audio.mayOpen = false
  synced : state.socket.synced = true →
    state.syncRunning = false ∧ state.main.polling = false

theorem mayOpen_of_parked_or_leaving {state : State}
    (h : Parked state ∨ state.audio.leaving = true) : state.audio.mayOpen = false := by
  rcases h with ⟨hcircling, -⟩ | hleaving
  all_goals
    cases hpoint : state.audio <;>
      simp_all [AudioPoint.mayOpen, AudioPoint.circling, AudioPoint.leaving]

/-- While paused, the audio thread does not start on a reopen. -/
theorem audioStep_mayOpen {state next : State} {ok : Bool}
    (hstep : audioStep state ok = some next) (hpaused : state.gAudioPaused = true)
    (hbefore : state.audio.mayOpen = false) :
    next.audio.mayOpen = false ∧ state.audio.opening = false := by
  unfold audioStep at hstep
  split at hstep
  all_goals
    (try split at hstep) <;> (try split at hstep) <;> cases hstep <;>
      simp_all [AudioPoint.mayOpen, AudioPoint.opening]

/-- While `motor_paused` is up, the polling loop does not start a poll. -/
theorem mainStep_polling {state next : State} {ok : Bool}
    (hstep : mainStep state ok = some next) (hpaused : state.motorPaused = true)
    (hbefore : state.main.polling = false) (hsync : state.syncRunning = false) :
    next.main.polling = false ∧ next.syncRunning = false := by
  unfold mainStep depthFailed at hstep
  split at hstep
  all_goals
    (try dsimp only at hstep)
    (try split at hstep) <;> (try split at hstep) <;> (try split at hstep) <;> cases hstep <;>
      simp_all [MainPoint.polling]

theorem SocketPoint.pausing_of_released {point : SocketPoint}
    (h : point.released = true) : point.pausing = true := by
  cases point <;> simp_all [released, pausing]

theorem SocketPoint.holdingMotor_of_synced {point : SocketPoint}
    (h : point.synced = true) : point.holdingMotor = true := by
  cases point <;> simp_all [synced, holdingMotor]

theorem exclusion_audio {state next : State} {ok : Bool} (hinv : ExclusionInvariant state)
    (hstep : audioStep state ok = some next) : ExclusionInvariant next := by
  have hframe := audioStep_frame hstep
  refine ⟨pauseInvariant_audio hinv.pause hstep,
    handleInvariant_audio hinv.handles hinv.pause hstep, ?_, ?_⟩
  · rw [hframe.socket]
    intro hreleased
    obtain ⟨hquiet, hmayOpen⟩ := hinv.released hreleased
    have hpaused := hinv.pause.paused (SocketPoint.pausing_of_released hreleased)
    obtain ⟨hnext, hopening⟩ := audioStep_mayOpen hstep hpaused hmayOpen
    refine ⟨fun handle hopen => ?_, hnext⟩
    rcases audioStep_isOpen hstep hopen with hold | ⟨hyes, -⟩
    · exact hquiet handle hold
    · rw [hopening] at hyes
      cases hyes
  · rw [hframe.socket, hframe.syncRunning, hframe.main]
    exact hinv.synced

theorem exclusion_main {state next : State} {ok : Bool} (hinv : ExclusionInvariant state)
    (hstep : mainStep state ok = some next) : ExclusionInvariant next := by
  have hframe := mainStep_frame hstep
  refine ⟨pauseInvariant_main hinv.pause hstep, handleInvariant_main hinv.handles hstep, ?_, ?_⟩
  · unfold Quiet State.isOpen
    rw [hframe.socket, hframe.audio, hframe.opened, hframe.calls]
    exact hinv.released
  · rw [hframe.socket]
    intro hsynced
    obtain ⟨hsync, hpolling⟩ := hinv.synced hsynced
    have hpaused := hinv.pause.motorPaused (SocketPoint.holdingMotor_of_synced hsynced)
    exact (mainStep_polling hstep hpaused hpolling hsync).symm

/-- The pause reaches the stop of the runtime by giving up or by closing the handle. -/
theorem socketStep_released {state : State}
    (hreleased : (socketStep state).socket.released = true) :
    state.socket.released = true ∨ givesUp state = true ∨ state.socket = .storeNull := by
  revert hreleased
  unfold socketStep givesUp
  split <;> (try split) <;> simp_all [SocketPoint.released]

theorem exclusion_socket {state : State} (hinv : ExclusionInvariant state)
    (hmeets : MeetsBoundThreads state .socket) : ExclusionInvariant (socketStep state) := by
  have hframe := socketStep_frame state
  refine ⟨pauseInvariant_socket hinv.pause, handleInvariant_socket hinv.handles, ?_, ?_⟩
  · intro hreleased
    rw [hframe.audio]
    have hbefore : Quiet state ∧ state.audio.mayOpen = false := by
      rcases socketStep_released hreleased with hold | hgivesUp | hnull
      · exact hinv.released hold
      · exact hmeets.2 hgivesUp
      · have hclosing : state.socket.closing = true := by rw [hnull]; rfl
        exact ⟨hinv.handles.socketClosed hnull,
          mayOpen_of_parked_or_leaving (hinv.pause.parked_or_leaving hclosing)⟩
    exact ⟨fun handle hopen => hbefore.1 handle (socketStep_isOpen hopen), hbefore.2⟩
  · intro hsynced
    rw [hframe.main]
    have hbefore : state.socket = .stopSync ∨ state.socket = .settle := by
      revert hsynced
      unfold socketStep
      split <;> (try split) <;> simp_all [SocketPoint.synced]
    rcases hbefore with hstop | hsettle
    · exact ⟨by simp [socketStep, hstop], hmeets.1 hstop⟩
    · have hold := hinv.synced (by rw [hsettle]; rfl)
      simpa [socketStep, hsettle] using hold

theorem exclusion_step {state next : State} {action : Action}
    (hinv : ExclusionInvariant state) (hmeets : MeetsBoundThreads state action)
    (hstep : step state action = some next) : ExclusionInvariant next := by
  cases action with
  | main ok => exact exclusion_main hinv hstep
  | audio ok => exact exclusion_audio hinv hstep
  | socket => cases hstep; exact exclusion_socket hinv hmeets
  | signal =>
      have hpause := pauseInvariant_step hinv.pause hstep
      have hhandles := handleInvariant_step hinv.handles hinv.pause hstep
      cases hstep
      exact ⟨hpause, hhandles, hinv.released, hinv.synced⟩

theorem exclusion_capturing : ExclusionInvariant capturing := by
  refine ⟨pauseInvariant_capturing, handleInvariant_capturing, fun h => ?_, fun h => ?_⟩
  all_goals cases h

/-- A pause that always meets bound threads gives every motor command the device. -/
theorem exclusive_of_meetsBoundThreads {first last : State} {trace : List (State × Action)}
    (hstart : fromLoops.Start first) (hrun : fromLoops.Run first trace last)
    (hmeets : Machine.Meets MeetsBoundThreads trace) : Exclusive last := by
  subst hstart
  have hinv : ExclusionInvariant last :=
    hrun.preserves hmeets exclusion_capturing exclusion_step
  intro hmotor
  have hreleased : last.socket.released = true := by rw [hmotor]; rfl
  have hsynced : last.socket.synced = true := by rw [hmotor]; rfl
  exact ⟨(hinv.synced hsynced).1, (hinv.released hreleased).1⟩

/-- One polling iteration, then a request whose drop the audio thread acknowledges in time. -/
def acknowledgedRequest : List Action :=
  List.replicate 4 (.main true) ++ List.replicate 4 .socket ++ List.replicate 6 (.audio true) ++
    List.replicate 8 .socket ++ List.replicate 2 (.main true)

theorem exclusive_acknowledgedRequest : ∃ last,
    fromLoops.play capturing acknowledgedRequest = some last ∧ last.socket = .motor ∧
      Exclusive last := by
  obtain ⟨last, hplay, hmotor⟩ : ∃ last,
      fromLoops.play capturing acknowledgedRequest = some last ∧ last.socket = .motor :=
    ⟨_, rfl, rfl⟩
  exact ⟨last, hplay, hmotor,
    exclusive_of_meetsBoundThreads rfl (Machine.run_of_play hplay) (by decide)⟩

/--
The polling loop tests `motor_paused` before the pause raises it and polls
after the pause has stopped the runtime, which the poll starts again.
-/
theorem not_exclusive_of_latePoll :
    ¬ ∀ state, fromLoops.Reachable state → Exclusive state := by
  intro hall
  let actions : List Action :=
    List.replicate 2 (.main true) ++ List.replicate 4 .socket ++
      List.replicate 6 (.audio true) ++ List.replicate 7 .socket ++ [.main true, .socket]
  let shared (state : State) : Bool := state.socket = .motor && state.syncRunning
  have hplay : (fromLoops.play capturing actions).any shared = true := by decide
  obtain ⟨state, hreach, hshared⟩ := Machine.exists_reachable_of_play rfl hplay
  obtain ⟨hmotor, hsync⟩ := (Bool.and_eq_true _ _).mp hshared
  have hstopped := (hall state hreach (of_decide_eq_true hmotor)).1
  rw [hsync] at hstopped
  cases hstopped

/-! ## Nothing weaker is enough -/

/-- A pause that stops the runtime under a pending poll ends with the runtime running. -/
theorem exists_sharedCamera {state : State} (hstop : state.socket = .stopSync)
    (hpolling : state.main.polling = true) :
    ∃ trace last, fromLoops.Run state trace last ∧ ¬ Exclusive last := by
  let stopped : State := { state with socket := .settle, syncRunning := false }
  have hstopped : fromLoops.step state .socket = some stopped := by
    simp [fromLoops, step, socketStep, hstop, stopped]
  have hpoll : ∃ polled, fromLoops.step stopped (.main true) = some polled ∧
      polled.socket = .settle ∧ polled.syncRunning = true := by
    cases hmain : state.main <;>
      simp_all [MainPoint.polling, fromLoops, step, mainStep, stopped]
  obtain ⟨polled, hpolled, hsettle, hsync⟩ := hpoll
  have hmotor : fromLoops.step polled .socket = some { polled with socket := .motor } := by
    simp [fromLoops, step, socketStep, hsettle]
  refine ⟨_, _, .tail (.tail (.single hstopped) hpolled) hmotor, fun hexclusive => ?_⟩
  have hdown := (hexclusive rfl).1
  rw [hsync] at hdown
  cases hdown

/-- Steps the audio thread still needs before its `snd_pcm_open`. -/
def AudioPoint.stepsToOpen : AudioPoint → Nat
  | .discover => 3
  | .rebind => 2
  | .findCard => 1
  | .testClose => 4
  | .loadClose => 3
  | .callClose _ => 2
  | .storeNull => 1
  | _ => 0

theorem stepsToOpen_lt (point : AudioPoint) : point.stepsToOpen < 5 := by
  cases point <;> simp [AudioPoint.stepsToOpen]

theorem audioStep_towardOpen {state : State} (hmayOpen : state.audio.mayOpen = true) :
    ∃ next, audioStep state true = some next ∧
      ((next.opened = state.opened + 1 ∧ next.calls = state.calls) ∨
        (next.audio.mayOpen = true ∧ next.audio.stepsToOpen < state.audio.stepsToOpen)) := by
  unfold audioStep
  split <;> simp_all [AudioPoint.mayOpen, AudioPoint.stepsToOpen, State.openPcm]
  cases state.gPcm <;> simp

/-- From every point that may open, the audio thread alone can open a handle. -/
theorem run_opens (steps : Nat) {state : State} (hnumbered : Numbered state)
    (hmayOpen : state.audio.mayOpen = true) (hsteps : state.audio.stepsToOpen < steps) :
    ∃ trace next, fromLoops.Run state trace next ∧ next.socket = state.socket ∧
      ¬ Quiet next := by
  induction steps generalizing state with
  | zero => exact absurd hsteps (Nat.not_lt_zero _)
  | succ steps ih =>
      obtain ⟨next, hstep, ⟨hopened, hcalls⟩ | ⟨hmay, hless⟩⟩ := audioStep_towardOpen hmayOpen
      · have hrun : fromLoops.Run state _ next :=
          .single (show fromLoops.step state (.audio true) = some next from hstep)
        refine ⟨_, next, hrun, (audioStep_frame hstep).socket, fun hquiet => ?_⟩
        apply hquiet state.opened
        refine ⟨by rw [hopened]; exact Nat.lt_succ_self _, fun hclosed => ?_⟩
        rw [hcalls] at hclosed
        exact Nat.lt_irrefl _ (hnumbered.closed _ hclosed)
      · have hbound : next.audio.stepsToOpen < steps :=
          Nat.lt_of_lt_of_le hless (Nat.le_of_lt_succ hsteps)
        obtain ⟨trace, last, hrun, hsocket, hopen⟩ :=
          ih (numbered_audio hnumbered hstep) hmay hbound
        have hfirst : fromLoops.Run state [(state, .audio true)] next := .single hstep
        refine ⟨_, last, hfirst.trans hrun, ?_, hopen⟩
        rw [hsocket, (audioStep_frame hstep).socket]

/-- A pause that has stopped waiting ends with the handle open if one is open then. -/
theorem exists_sharedMicrophone {state : State} (hstop : state.socket = .stopSync)
    (hopen : ¬ Quiet state) : ∃ trace last, fromLoops.Run state trace last ∧ ¬ Exclusive last := by
  let stopped : State := { state with socket := .settle, syncRunning := false }
  have hstopped : fromLoops.step state .socket = some stopped := by
    simp [fromLoops, step, socketStep, hstop, stopped]
  have hmotor : fromLoops.step stopped .socket = some { stopped with socket := .motor } := by
    simp [fromLoops, step, socketStep, stopped]
  refine ⟨_, _, .tail (.single hstopped) hmotor, fun hexclusive => ?_⟩
  exact hopen (hexclusive rfl).2

/--
Every step that the condition excludes leads some run to a motor command that
shares the device: no weaker condition on the steps will do.
-/
theorem exists_sharedDevice_of_not_meetsBoundThreads {state : State} {action : Action}
    (hreach : fromLoops.Reachable state) (hfails : ¬ MeetsBoundThreads state action) :
    ∃ trace last, fromLoops.Run state trace last ∧ ¬ Exclusive last := by
  have hnumbered : Numbered state := by
    refine hreach.invariant ?_ numbered_step
    rintro first rfl
    exact numbered_capturing
  cases action with
  | socket =>
      by_cases hcamera : state.socket = .stopSync ∧ state.main.polling = true
      · exact exists_sharedCamera hcamera.1 hcamera.2
      · have hgives : givesUp state = true ∧
            (¬ Quiet state ∨ state.audio.mayOpen = true) := by
          unfold MeetsBoundThreads at hfails
          by_contra hnot
          apply hfails
          constructor
          · intro hstop
            by_contra hpolling
            exact hcamera ⟨hstop, by simpa using hpolling⟩
          · intro hgives
            by_contra hbound
            apply hnot
            refine ⟨hgives, ?_⟩
            by_contra hneither
            apply hbound
            simpa using hneither
        obtain ⟨hgives, hbound⟩ := hgives
        let gone : State := { state with socket := .stopSync }
        have hgone : step state .socket = some gone := by
          unfold givesUp at hgives
          split at hgives <;> simp_all [step, socketStep, gone]
        have hrunGone : fromLoops.Run state [(state, .socket)] gone := .single hgone
        have hstop : gone.socket = .stopSync := rfl
        rcases hbound with hopen | hmayOpen
        · obtain ⟨trace, last, hrun, hlast⟩ := exists_sharedMicrophone hstop hopen
          exact ⟨_, last, hrunGone.trans hrun, hlast⟩
        · obtain ⟨trace, next, hrun, hsocket, hopen⟩ :=
            run_opens 5 (numbered_step hnumbered hgone) hmayOpen (stepsToOpen_lt _)
          obtain ⟨after, last, hafter, hlast⟩ := exists_sharedMicrophone hsocket hopen
          exact ⟨_, last, hrunGone.trans (hrun.trans hafter), hlast⟩
  | _ => exact absurd trivial hfails

end K4W.Daemon.Threads
