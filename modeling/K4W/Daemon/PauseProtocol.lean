import K4W.Daemon.Threads

/-!
# What a pause guarantees without any assumption

The socket thread is the only writer of `g_audio_paused` and `motor_paused`,
so both flags are up while a motor request needs them.  Once the drop is
acknowledged during a pause, the audio thread only circles in its paused loop
or leaves the function: it makes no call that opens a handle.
-/

namespace K4W.Daemon.Threads

open K4W.Library

/-! ## Phases of the three threads -/

/-- `g_audio_paused` has been raised and not yet lowered. -/
def SocketPoint.pausing : SocketPoint → Bool
  | .idle | .storePaused => false
  | _ => true

/-- `motor_paused` has been raised and not yet lowered. -/
def SocketPoint.holdingMotor : SocketPoint → Bool
  | .idle | .storePaused | .resetDropped | .storeMotorPaused | .clearPaused => false
  | _ => true

/-- The capture handle is being handed over: from the reset of the flag to `g_pcm = NULL`. -/
def SocketPoint.handover : SocketPoint → Bool
  | .storeMotorPaused | .waitDrop _ | .testPcm | .testDropped | .loadClose | .callClose _
  | .storeNull => true
  | _ => false

/-- The socket thread has decided to close the handle and not yet stored `NULL`. -/
def SocketPoint.closing : SocketPoint → Bool
  | .loadClose | .callClose _ | .storeNull => true
  | _ => false

/-- The loop head and the paused branch, where the audio thread waits for the resume. -/
def AudioPoint.circling : AudioPoint → Bool
  | .loopTest | .testPaused | .testDrop => true
  | _ => false

/-- The audio thread is past its loop. -/
def AudioPoint.leaving : AudioPoint → Bool
  | .exitTest | .exitLoad | .exitClose _ | .exitNull | .returned => true
  | _ => false

/-- The audio thread has seen the pause and waits in its paused branch. -/
def Parked (state : State) : Prop :=
  state.audio.circling = true ∧ state.wasPaused = true

/-! ## The invariant of the flags -/

structure PauseInvariant (state : State) : Prop where
  paused : state.socket.pausing = true → state.gAudioPaused = true
  motorPaused : state.socket.holdingMotor = true → state.motorPaused = true
  dropped : state.socket.closing = true → state.gAudioDropped = true
  acknowledged : state.socket.handover = true → state.gAudioDropped = true →
    Parked state ∨ state.audio.leaving = true

theorem SocketPoint.pausing_of_handover {point : SocketPoint}
    (h : point.handover = true) : point.pausing = true := by
  cases point <;> simp_all [handover, pausing]

theorem SocketPoint.handover_of_closing {point : SocketPoint}
    (h : point.closing = true) : point.handover = true := by
  cases point <;> simp_all [handover, closing]

/-- A paused audio thread acknowledges, stays parked, or leaves. -/
theorem audioStep_acknowledged {state next : State} {ok : Bool}
    (hstep : audioStep state ok = some next) (hpaused : state.gAudioPaused = true)
    (hbefore : state.gAudioDropped = true → Parked state ∨ state.audio.leaving = true)
    (hdropped : next.gAudioDropped = true) : Parked next ∨ next.audio.leaving = true := by
  unfold audioStep at hstep
  split at hstep
  all_goals
    (try split at hstep) <;> (try split at hstep) <;> cases hstep <;>
      simp_all [Parked, AudioPoint.circling, AudioPoint.leaving, callPcm_eq, State.openPcm]

/-- Only the audio thread acknowledges a drop, and it never takes that back. -/
theorem audioStep_gAudioDropped {state next : State} {ok : Bool}
    (hstep : audioStep state ok = some next) (hdropped : state.gAudioDropped = true) :
    next.gAudioDropped = true := by
  unfold audioStep at hstep
  split at hstep
  all_goals
    (try split at hstep) <;> (try split at hstep) <;> cases hstep <;>
      simp_all [callPcm_eq, State.openPcm]

theorem pauseInvariant_audio {state next : State} {ok : Bool} (hinv : PauseInvariant state)
    (hstep : audioStep state ok = some next) : PauseInvariant next := by
  have hframe := audioStep_frame hstep
  refine ⟨?_, ?_, ?_, ?_⟩
  · rw [hframe.socket, hframe.gAudioPaused]
    exact hinv.paused
  · rw [hframe.socket, hframe.motorPaused]
    exact hinv.motorPaused
  · rw [hframe.socket]
    exact fun hclosing => audioStep_gAudioDropped hstep (hinv.dropped hclosing)
  · rw [hframe.socket]
    intro hhandover
    have hpaused := hinv.paused (SocketPoint.pausing_of_handover hhandover)
    exact audioStep_acknowledged hstep hpaused (hinv.acknowledged hhandover)

theorem pauseInvariant_main {state next : State} {ok : Bool} (hinv : PauseInvariant state)
    (hstep : mainStep state ok = some next) : PauseInvariant next := by
  have hframe := mainStep_frame hstep
  refine ⟨?_, ?_, ?_, ?_⟩
  · rw [hframe.socket, hframe.gAudioPaused]
    exact hinv.paused
  · rw [hframe.socket, hframe.motorPaused]
    exact hinv.motorPaused
  · rw [hframe.socket, hframe.gAudioDropped]
    exact hinv.dropped
  · unfold Parked
    rw [hframe.socket, hframe.gAudioDropped, hframe.audio, hframe.wasPaused]
    exact hinv.acknowledged

theorem pauseInvariant_socket {state : State} (hinv : PauseInvariant state) :
    PauseInvariant (socketStep state) := by
  obtain ⟨hpaused, hmotor, hdropped, hacknowledged⟩ := hinv
  have hframe := socketStep_frame state
  have hparked : Parked (socketStep state) ↔ Parked state := by
    unfold Parked
    rw [hframe.audio, hframe.wasPaused]
  refine ⟨?_, ?_, ?_, ?_⟩
  · unfold socketStep
    split <;> (try split) <;>
      simp_all [SocketPoint.pausing, callPcm_eq]
  · unfold socketStep
    split <;> (try split) <;>
      simp_all [SocketPoint.holdingMotor, callPcm_eq]
  · unfold socketStep
    split <;> (try split) <;>
      simp_all [SocketPoint.closing, callPcm_eq]
  · rw [hparked, hframe.audio]
    unfold socketStep
    split <;> (try split) <;>
      simp_all [SocketPoint.handover, callPcm_eq]

theorem pauseInvariant_step {state next : State} {action : Action}
    (hinv : PauseInvariant state) (hstep : step state action = some next) :
    PauseInvariant next := by
  cases action with
  | main ok => exact pauseInvariant_main hinv hstep
  | audio ok => exact pauseInvariant_audio hinv hstep
  | socket => cases hstep; exact pauseInvariant_socket hinv
  | signal => cases hstep; exact ⟨hinv.1, hinv.2, hinv.3, hinv.4⟩

theorem pauseInvariant_started : PauseInvariant started := by
  constructor <;> intro h <;> cases h

theorem pauseInvariant_capturing : PauseInvariant capturing := by
  constructor <;> intro h <;> cases h

/-- While the socket thread closes the handle, the audio thread is parked or leaving. -/
theorem PauseInvariant.parked_or_leaving {state : State} (hinv : PauseInvariant state)
    (hclosing : state.socket.closing = true) :
    Parked state ∨ state.audio.leaving = true :=
  hinv.acknowledged (SocketPoint.handover_of_closing hclosing) (hinv.dropped hclosing)

/-! ## What a step does to the capture handles -/

/-- The handle in the argument of a pending call of the audio thread. -/
def AudioPoint.argument : AudioPoint → Option Handle
  | .configureCall _ _ pcm | .callDrop pcm | .callClose pcm | .callRead pcm | .callRecover pcm
  | .exitClose pcm => pcm
  | _ => none

/-- The audio thread is about to load `g_pcm` for a call. -/
def AudioPoint.loading : AudioPoint → Bool
  | .configure (_ + 1) _ | .loadDrop | .loadClose | .loadRead | .loadRecover | .exitLoad => true
  | _ => false

/-- The audio thread has closed the handle and not yet stored `NULL`. -/
def AudioPoint.closed : AudioPoint → Bool
  | .storeNull | .exitNull => true
  | _ => false

def SocketPoint.argument : SocketPoint → Option Handle
  | .callClose pcm => pcm
  | _ => none

theorem audioStep_argument {state next : State} {ok : Bool}
    (hstep : audioStep state ok = some next) :
    next.audio.argument = none ∨
      (state.audio.loading = true ∧ next.audio.argument = state.gPcm ∧
        next.gPcm = state.gPcm ∧ next.calls = state.calls ∧ next.opened = state.opened) := by
  unfold audioStep at hstep
  split at hstep
  all_goals
    (try split at hstep) <;> (try split at hstep) <;> cases hstep <;>
      simp_all [AudioPoint.argument, AudioPoint.loading]

/-- A call is made on the loaded argument; only the two closing points close. -/
theorem audioStep_calls {state next : State} {ok : Bool}
    (hstep : audioStep state ok = some next) :
    next.calls = state.calls ∨
      ∃ handle, state.audio.argument = some handle ∧
        (next.calls = .use handle :: state.calls ∨
          (next.calls = .close handle :: state.calls ∧ next.audio.closed = true)) := by
  unfold audioStep at hstep
  split at hstep
  all_goals
    (try split at hstep) <;> (try split at hstep) <;> cases hstep <;>
      first
      | exact .inl rfl
      | skip
  all_goals
    cases hargument : state.audio.argument <;>
      simp_all [AudioPoint.argument, AudioPoint.closed, callPcm_eq]

/-- `g_pcm` is kept, nulled after a close, or set by an open. -/
theorem audioStep_gPcm {state next : State} {ok : Bool}
    (hstep : audioStep state ok = some next) :
    (next.opened = state.opened ∧ next.gPcm = state.gPcm ∧
        (state.audio.closed = true → next.audio.closed = true)) ∨
      (next.opened = state.opened ∧ next.gPcm = none ∧ state.audio.closed = true) ∨
      (next.opened = state.opened + 1 ∧ next.gPcm = some state.opened ∧
        next.calls = state.calls) := by
  unfold audioStep at hstep
  split at hstep
  all_goals
    (try split at hstep) <;> (try split at hstep) <;> cases hstep <;>
      simp_all [AudioPoint.closed, callPcm_eq, State.openPcm]

/-! ## Handles are numbered by their opening -/

/-- Every handle that is stored, loaded, or closed has been returned by an open. -/
structure Numbered (state : State) : Prop where
  gPcm : ∀ handle, state.gPcm = some handle → handle < state.opened
  audio : ∀ handle, state.audio.argument = some handle → handle < state.opened
  socket : ∀ handle, state.socket.argument = some handle → handle < state.opened
  closed : ∀ handle, .close handle ∈ state.calls → handle < state.opened

theorem numbered_audio {state next : State} {ok : Bool} (hinv : Numbered state)
    (hstep : audioStep state ok = some next) : Numbered next := by
  have hopened : state.opened ≤ next.opened := by
    rcases audioStep_gPcm hstep with ⟨h, -⟩ | ⟨h, -⟩ | ⟨h, -⟩
    · exact Nat.le_of_eq h.symm
    · exact Nat.le_of_eq h.symm
    · rw [h]
      exact Nat.le_succ _
  refine ⟨fun handle hhandle => ?_, fun handle hhandle => ?_, fun handle hhandle => ?_,
    fun handle hhandle => ?_⟩
  · rcases audioStep_gPcm hstep with ⟨-, hsame, -⟩ | ⟨-, hnull, -⟩ | ⟨hmore, hnew, -⟩
    · exact Nat.lt_of_lt_of_le (hinv.gPcm handle (hsame ▸ hhandle)) hopened
    · rw [hnull] at hhandle
      cases hhandle
    · rw [hnew] at hhandle
      cases hhandle
      rw [hmore]
      exact Nat.lt_succ_self _
  · rcases audioStep_argument hstep with hnone | ⟨-, hloaded, -⟩
    · rw [hnone] at hhandle
      cases hhandle
    · exact Nat.lt_of_lt_of_le (hinv.gPcm handle (hloaded ▸ hhandle)) hopened
  · rw [(audioStep_frame hstep).socket] at hhandle
    exact Nat.lt_of_lt_of_le (hinv.socket handle hhandle) hopened
  · refine Nat.lt_of_lt_of_le ?_ hopened
    rcases audioStep_calls hstep with hsame | ⟨argument, hargument, huse | ⟨hclose, -⟩⟩
    · exact hinv.closed handle (hsame ▸ hhandle)
    · exact hinv.closed handle (by simpa [huse] using hhandle)
    · rw [hclose] at hhandle
      rcases List.mem_cons.mp hhandle with heq | hold
      · cases heq
        exact hinv.audio handle hargument
      · exact hinv.closed handle hold

theorem numbered_main {state next : State} {ok : Bool} (hinv : Numbered state)
    (hstep : mainStep state ok = some next) : Numbered next := by
  have hframe := mainStep_frame hstep
  refine ⟨?_, ?_, ?_, ?_⟩
  · rw [hframe.gPcm, hframe.opened]
    exact hinv.gPcm
  · rw [hframe.audio, hframe.opened]
    exact hinv.audio
  · rw [hframe.socket, hframe.opened]
    exact hinv.socket
  · rw [hframe.calls, hframe.opened]
    exact hinv.closed

/-- The socket thread makes one kind of call, a close of what it has loaded. -/
theorem socketStep_calls (state : State) :
    (socketStep state).calls = state.calls ∨
      ∃ handle, state.socket = .callClose (some handle) ∧
        (socketStep state).socket = .storeNull ∧
        (socketStep state).calls = .close handle :: state.calls := by
  unfold socketStep
  split
  case h_9 pcm hpoint => cases pcm <;> simp [callPcm_eq, hpoint]
  all_goals (try split) <;> exact .inl rfl

theorem socketStep_argument {state : State} {handle : Handle}
    (hargument : (socketStep state).socket.argument = some handle) :
    state.socket = .loadClose ∧ state.gPcm = some handle := by
  revert hargument
  unfold socketStep
  split <;> (try split) <;> simp_all [SocketPoint.argument]

theorem socketStep_gPcm (state : State) :
    (socketStep state).gPcm = state.gPcm ∨
      (state.socket = .storeNull ∧ (socketStep state).gPcm = none) := by
  unfold socketStep
  split <;> (try split) <;> simp_all [callPcm_eq]

theorem numbered_socket {state : State} (hinv : Numbered state) :
    Numbered (socketStep state) := by
  have hframe := socketStep_frame state
  refine ⟨?_, ?_, ?_, ?_⟩
  all_goals intro handle hhandle; rw [hframe.opened]
  · rcases socketStep_gPcm state with hsame | ⟨-, hnull⟩
    · exact hinv.gPcm handle (hsame ▸ hhandle)
    · rw [hnull] at hhandle
      cases hhandle
  · rw [hframe.audio] at hhandle
    exact hinv.audio handle hhandle
  · exact hinv.gPcm handle (socketStep_argument hhandle).2
  · rcases socketStep_calls state with hsame | ⟨argument, hcall, -, hclose⟩
    · exact hinv.closed handle (hsame ▸ hhandle)
    · rw [hclose] at hhandle
      rcases List.mem_cons.mp hhandle with heq | hold
      · cases heq
        exact hinv.socket handle (by simp [hcall, SocketPoint.argument])
      · exact hinv.closed handle hold

theorem numbered_step {state next : State} {action : Action} (hinv : Numbered state)
    (hstep : step state action = some next) : Numbered next := by
  cases action with
  | main ok => exact numbered_main hinv hstep
  | audio ok => exact numbered_audio hinv hstep
  | socket => cases hstep; exact numbered_socket hinv
  | signal => cases hstep; exact ⟨hinv.1, hinv.2, hinv.3, hinv.4⟩

theorem numbered_started : Numbered started := by
  constructor <;> intro handle h <;> cases h

theorem numbered_capturing : Numbered capturing := by
  constructor <;> intro handle h <;> cases h
  exact Nat.zero_lt_one

end K4W.Daemon.Threads
