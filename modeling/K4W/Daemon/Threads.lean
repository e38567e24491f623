import K4W.Library.Machine

/-!
# The threads that share the audio device and the camera

The polling loop of `k4w_kinect_run` followed by `k4w_kinect_stop`, the whole
of `audio_thread_func`, and the socket thread with `k4w_kinect_audio_pause`
and `k4w_kinect_audio_resume` around each motor command.  A step is one read
or write of a shared variable or one library call; the argument of a call is
loaded by a step of its own.
-/

namespace K4W.Daemon.Threads

open K4W.Library

/-- Handles are numbered in the order in which `snd_pcm_open` returns them. -/
abbrev Handle := Nat

/-- Calls on capture handles; `use` is any call but `snd_pcm_close`. -/
inductive PcmCall where
  | use (handle : Handle)
  | close (handle : Handle)
  deriving DecidableEq, Repr

def PcmCall.handle : PcmCall → Handle
  | .use handle | .close handle => handle

inductive MainPoint where
  -- `k4w_kinect_run`
  | loopTest
  | testMotorPaused
  | pollDepth
  | stopLost
  | pollVideo
  | finalStop
  -- `k4w_kinect_stop`
  | storeStop
  | storeAudioStop
  | joinAudio
  | stopSync
  | done
  deriving DecidableEq, Repr

/-- `k4w_kinect_stop` has stored `g_audio_running = false`. -/
def MainPoint.stopStored : MainPoint → Bool
  | .joinAudio | .stopSync | .done => true
  | _ => false

/--
Program points of `audio_thread_func`.  A `load` point reads `g_pcm` for the
call that follows; `configure` is the block of eight parameter calls, made
after the first open and after every reopen.
-/
inductive AudioPoint where
  | discover
  | rebind
  | findCard
  | firstOpen
  | configure (left : Nat) (again : Bool)
  | configureCall (left : Nat) (again : Bool) (pcm : Option Handle)
  | storeRunning
  | loopTest
  | testPaused
  | testDrop
  | loadDrop
  | callDrop (pcm : Option Handle)
  | storeDropped
  | testClose
  | loadClose
  | callClose (pcm : Option Handle)
  | storeNull
  | reopen (retry : Nat)
  | testPcm
  | loadRead
  | callRead (pcm : Option Handle)
  | loadRecover
  | callRecover (pcm : Option Handle)
  | exitTest
  | exitLoad
  | exitClose (pcm : Option Handle)
  | exitNull
  | returned
  deriving DecidableEq, Repr

/-- Program points of a motor request; `motor` is all between pause and resume. -/
inductive SocketPoint where
  | idle
  -- `k4w_kinect_audio_pause`
  | storePaused
  | resetDropped
  | storeMotorPaused
  | waitDrop (i : Nat)
  | testPcm
  | testDropped
  | loadClose
  | callClose (pcm : Option Handle)
  | storeNull
  | stopSync
  | settle
  | motor
  -- `k4w_kinect_audio_resume`
  | clearMotorPaused
  | clearPaused
  deriving DecidableEq, Repr

/--
The three program points with their locals, the flags, and the devices:
`syncRunning` is the freenect sync runtime, `opened` the number of handles
returned so far, `calls` the calls made on them, latest first.
-/
structure State where
  main : MainPoint
  consecutiveErrors : Nat
  deviceOk : Bool
  wasMotorPaused : Bool
  audio : AudioPoint
  wasPaused : Bool
  socket : SocketPoint
  running : Bool
  motorPaused : Bool
  gAudioRunning : Bool
  gAudioPaused : Bool
  gAudioDropped : Bool
  gPcm : Option Handle
  syncRunning : Bool
  opened : Nat
  calls : List PcmCall
  deriving DecidableEq, Repr

/-- A handle that `snd_pcm_open` has returned and nobody has closed. -/
def State.isOpen (state : State) (handle : Handle) : Prop :=
  handle < state.opened ∧ .close handle ∉ state.calls

/-- A `snd_pcm` call on a loaded argument; on a null argument there is no handle to record. -/
def State.callPcm (state : State) (call : Handle → PcmCall) : Option Handle → State
  | none => state
  | some handle => { state with calls := call handle :: state.calls }

/-- A successful `snd_pcm_open(&g_pcm, ...)`. -/
def State.openPcm (state : State) : State :=
  { state with gPcm := some state.opened, opened := state.opened + 1 }

def configureCalls : Nat := 8

/-- One step of `audio_thread_func`; `ok` is the outcome of a scan or a library call. -/
def audioStep (state : State) (ok : Bool) : Option State :=
  match state.audio with
  | .discover => some { state with audio := .rebind }
  | .rebind => some { state with audio := .findCard }
  | .findCard => some { state with audio := if ok then .firstOpen else .returned }
  | .firstOpen =>
      if ok then some { state.openPcm with audio := .configure configureCalls false }
      else some { state with audio := .returned }
  | .configure 0 false => some { state with audio := .storeRunning }
  | .configure 0 true => some { state with audio := .loopTest, wasPaused := false }
  | .configure (left + 1) again =>
      some { state with audio := .configureCall left again state.gPcm }
  | .configureCall left again pcm =>
      some { state.callPcm .use pcm with audio := .configure left again }
  | .storeRunning => some { state with audio := .loopTest, gAudioRunning := true }
  | .loopTest =>
      some { state with audio := if state.gAudioRunning then .testPaused else .exitTest }
  | .testPaused =>
      if state.gAudioPaused then some { state with audio := .testDrop }
      else if state.wasPaused then some { state with audio := .testClose }
      else some { state with audio := .testPcm }
  | .testDrop =>
      if !state.wasPaused && state.gPcm.isSome then some { state with audio := .loadDrop }
      else some { state with audio := .loopTest, wasPaused := true }
  | .loadDrop => some { state with audio := .callDrop state.gPcm }
  | .callDrop pcm => some { state.callPcm .use pcm with audio := .storeDropped }
  | .storeDropped =>
      some { state with audio := .loopTest, wasPaused := true, gAudioDropped := true }
  | .testClose =>
      some { state with audio := if state.gPcm.isSome then .loadClose else .reopen 0 }
  | .loadClose => some { state with audio := .callClose state.gPcm }
  | .callClose pcm => some { state.callPcm .close pcm with audio := .storeNull }
  | .storeNull => some { state with audio := .reopen 0, gPcm := none }
  | .reopen retry =>
      if ok then some { state.openPcm with audio := .configure configureCalls true }
      else if retry + 1 < 10 then some { state with audio := .reopen (retry + 1) }
      else some { state with audio := .loopTest, wasPaused := false }
  | .testPcm => some { state with audio := if state.gPcm.isSome then .loadRead else .loopTest }
  | .loadRead => some { state with audio := .callRead state.gPcm }
  | .callRead pcm =>
      some { state.callPcm .use pcm with audio := if ok then .loopTest else .loadRecover }
  | .loadRecover => some { state with audio := .callRecover state.gPcm }
  | .callRecover pcm => some { state.callPcm .use pcm with audio := .loopTest }
  | .exitTest => some { state with audio := if state.gPcm.isSome then .exitLoad else .returned }
  | .exitLoad => some { state with audio := .exitClose state.gPcm }
  | .exitClose pcm => some { state.callPcm .close pcm with audio := .exitNull }
  | .exitNull => some { state with audio := .returned, gPcm := none }
  | .returned => none

/-- One step of a motor request: pause, motor command, resume. -/
def socketStep (state : State) : State :=
  match state.socket with
  | .idle => { state with socket := .storePaused }
  | .storePaused => { state with socket := .resetDropped, gAudioPaused := true }
  | .resetDropped => { state with socket := .storeMotorPaused, gAudioDropped := false }
  | .storeMotorPaused => { state with socket := .waitDrop 0, motorPaused := true }
  | .waitDrop i =>
      if i < 60 ∧ state.gAudioDropped = false then { state with socket := .waitDrop (i + 1) }
      else { state with socket := .testPcm }
  | .testPcm => { state with socket := if state.gPcm.isSome then .testDropped else .stopSync }
  | .testDropped => { state with socket := if state.gAudioDropped then .loadClose else .stopSync }
  | .loadClose => { state with socket := .callClose state.gPcm }
  | .callClose pcm => { state.callPcm .close pcm with socket := .storeNull }
  | .storeNull => { state with socket := .stopSync, gPcm := none }
  | .stopSync => { state with socket := .settle, syncRunning := false }
  | .settle => { state with socket := .motor }
  | .motor => { state with socket := .clearMotorPaused }
  | .clearMotorPaused => { state with socket := .clearPaused, motorPaused := false }
  | .clearPaused => { state with socket := .idle, gAudioPaused := false }

/-- A depth poll that fails: the 31st failure in a row gives the device up. -/
def depthFailed (state : State) : State :=
  if 30 < state.consecutiveErrors + 1 then
    if state.deviceOk then
      { state with main := .stopLost, consecutiveErrors := 0, deviceOk := false }
    else { state with main := .loopTest, consecutiveErrors := 0 }
  else { state with main := .pollVideo, consecutiveErrors := state.consecutiveErrors + 1 }

/-- One step of `k4w_kinect_run` or `k4w_kinect_stop`; a poll starts the sync runtime. -/
def mainStep (state : State) (ok : Bool) : Option State :=
  match state.main with
  | .loopTest =>
      some { state with main := if state.running then .testMotorPaused else .finalStop }
  | .testMotorPaused =>
      if state.motorPaused then some { state with main := .loopTest, wasMotorPaused := true }
      else if state.wasMotorPaused then
        some { state with main := .pollDepth, wasMotorPaused := false, consecutiveErrors := 0 }
      else some { state with main := .pollDepth }
  | .pollDepth =>
      let polled := { state with syncRunning := true }
      if ok then
        some { polled with main := .pollVideo, consecutiveErrors := 0, deviceOk := true }
      else some (depthFailed polled)
  | .stopLost => some { state with main := .loopTest, syncRunning := false }
  | .pollVideo => some { state with main := .loopTest, syncRunning := true }
  | .finalStop => some { state with main := .storeStop, syncRunning := false }
  | .storeStop => some { state with main := .storeAudioStop, running := false }
  | .storeAudioStop => some { state with main := .joinAudio, gAudioRunning := false }
  | .joinAudio =>
      if state.audio = .returned then some { state with main := .stopSync } else none
  | .stopSync => some { state with main := .done, syncRunning := false }
  | .done => none

/-- `signal` is `sig_handler`, which can end the polling loop at any moment. -/
inductive Action where
  | main (ok : Bool)
  | audio (ok : Bool)
  | socket
  | signal
  deriving DecidableEq, Repr

def step (state : State) : Action → Option State
  | .main ok => mainStep state ok
  | .audio ok => audioStep state ok
  | .socket => some (socketStep state)
  | .signal => some { state with running := false }

/-- `k4w_kinect_start_audio` has just created the audio thread. -/
def started : State where
  main := .loopTest
  consecutiveErrors := 0
  deviceOk := true
  wasMotorPaused := false
  audio := .discover
  wasPaused := false
  socket := .idle
  running := true
  motorPaused := false
  gAudioRunning := false
  gAudioPaused := false
  gAudioDropped := false
  gPcm := none
  syncRunning := true
  opened := 0
  calls := []

/-- All three loops have been entered, with the first handle open. -/
def capturing : State :=
  { started with audio := .loopTest, gAudioRunning := true, gPcm := some 0, opened := 1 }

def fromStart : Machine State Action where
  Start state := state = started
  step := step

def fromLoops : Machine State Action where
  Start state := state = capturing
  step := step

/-! ## What each thread leaves alone -/

/-- A call changes nothing but the record of calls. -/
theorem callPcm_eq (state : State) (call : Handle → PcmCall) (pcm : Option Handle) :
    state.callPcm call pcm =
      { state with calls := pcm.toList.map call ++ state.calls } := by
  cases pcm <;> rfl

/-- The audio thread moves no other thread and writes no flag of theirs. -/
structure AudioFrame (state next : State) : Prop where
  main : next.main = state.main
  socket : next.socket = state.socket
  motorPaused : next.motorPaused = state.motorPaused
  gAudioPaused : next.gAudioPaused = state.gAudioPaused
  syncRunning : next.syncRunning = state.syncRunning

theorem audioStep_frame {state next : State} {ok : Bool}
    (hstep : audioStep state ok = some next) : AudioFrame state next := by
  unfold audioStep at hstep
  split at hstep
  all_goals
    (try split at hstep) <;> (try split at hstep) <;> cases hstep <;>
      exact ⟨by simp [callPcm_eq, State.openPcm], by simp [callPcm_eq, State.openPcm],
        by simp [callPcm_eq, State.openPcm], by simp [callPcm_eq, State.openPcm],
        by simp [callPcm_eq, State.openPcm]⟩

/-- The socket thread moves no other thread and opens no handle. -/
structure SocketFrame (state next : State) : Prop where
  main : next.main = state.main
  audio : next.audio = state.audio
  wasPaused : next.wasPaused = state.wasPaused
  gAudioRunning : next.gAudioRunning = state.gAudioRunning
  opened : next.opened = state.opened

theorem socketStep_frame (state : State) : SocketFrame state (socketStep state) := by
  unfold socketStep
  split
  all_goals
    (try split) <;>
      exact ⟨by simp [callPcm_eq], by simp [callPcm_eq], by simp [callPcm_eq],
        by simp [callPcm_eq], by simp [callPcm_eq]⟩

/-- The main thread touches neither the capture handle nor the flags of a pause. -/
structure MainFrame (state next : State) : Prop where
  audio : next.audio = state.audio
  wasPaused : next.wasPaused = state.wasPaused
  socket : next.socket = state.socket
  motorPaused : next.motorPaused = state.motorPaused
  gAudioPaused : next.gAudioPaused = state.gAudioPaused
  gAudioDropped : next.gAudioDropped = state.gAudioDropped
  gPcm : next.gPcm = state.gPcm
  opened : next.opened = state.opened
  calls : next.calls = state.calls

theorem mainStep_frame {state next : State} {ok : Bool}
    (hstep : mainStep state ok = some next) : MainFrame state next := by
  unfold mainStep depthFailed at hstep
  split at hstep
  all_goals
    (try dsimp only at hstep)
    (try split at hstep) <;> (try split at hstep) <;> (try split at hstep) <;> cases hstep <;>
      exact ⟨rfl, rfl, rfl, rfl, rfl, rfl, rfl, rfl, rfl⟩

end K4W.Daemon.Threads
