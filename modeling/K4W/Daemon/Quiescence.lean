import K4W.Daemon.SocketHandle
import K4W.Library.Machine
import K4W.Motor.Handles

/-!
# Quiescence between requests

Connections served one after the other over the statics of the daemon.  When
`k4w_socket_handle` returns, the motor is idle and unlocked, both pause flags
are down, and everything taken for the request has been given back.
-/

namespace K4W.Daemon.SocketHandle

open K4W.Library
open K4W.Motor

/-- The motor is idle and unlocked, and nothing is paused. -/
structure Quiescent (state : State) : Prop where
  unlocked : state.motor.locked = false
  idle : state.motor.busy = 0
  motorRuns : state.motorPaused = false
  audioRuns : state.gAudioPaused = false

instance (state : State) : Decidable (Quiescent state) :=
  decidable_of_iff (state.motor.locked = false ∧ state.motor.busy = 0 ∧
      state.motorPaused = false ∧ state.gAudioPaused = false)
    ⟨fun h => ⟨h.1, h.2.1, h.2.2.1, h.2.2.2⟩, fun h => ⟨h.1, h.2, h.3, h.4⟩⟩

/-- One connection; `pointerSet` tells whether `g_state` is set. -/
structure Connection where
  pointerSet : Bool
  received : Option (List UInt8)
  answers : Answers
  locals : Locals

/-- A whole request has arrived for a daemon that is set up. -/
def Connection.Answered (connection : Connection) : Prop :=
  connection.pointerSet = true ∧ ∃ bytes, connection.received = some bytes ∧ bytes.length = 8

def isClose : ClientCall → Bool
  | .close => true
  | _ => false

/-- What serving a connection has to leave. -/
structure Served (connection : Connection) (handled : Handled) : Prop where
  balanced : ∀ session ∈ handled.sessions, Balanced session.calls
  closed : handled.client.countP isClose = 1
  answered : connection.Answered → handled.sent.length = 1
  unanswered : ¬connection.Answered → handled.sent = []

/-- The statics of the daemon, and the connections served so far. -/
structure Desk where
  state : State
  served : List (Connection × Handled)

def serve (state : State) (connection : Connection) : Handled :=
  k4wSocketHandle (if connection.pointerSet then some state else none) connection.received
    connection.answers connection.locals

def step (desk : Desk) (connection : Connection) : Option Desk :=
  let handled := serve desk.state connection
  some {
    state := handled.state.getD desk.state
    served := desk.served ++ [(connection, handled)] }

/-- Connections one after the other. -/
def socketThread : Machine Desk Connection where
  Start desk := Quiescent desk.state ∧ desk.served = []
  step := step

/-- The daemon is quiescent, and every connection has been served. -/
structure LeavesQuiescent (desk : Desk) : Prop where
  quiescent : Quiescent desk.state
  served : ∀ entry ∈ desk.served, Served entry.1 entry.2

/-! ## The commands -/

/-- A command leaves the daemon quiescent and its sessions balanced. -/
structure Processed.Settled (processed : Processed) : Prop where
  quiescent : Quiescent processed.state
  balanced : ∀ session ∈ processed.sessions, Balanced session.calls

/-- After `k4w_kinect_audio_resume` only the motor can be busy or locked. -/
theorem quiescent_resumed {state : State} (hunlocked : state.motor.locked = false)
    (hidle : state.motor.busy = 0) : Quiescent (audioResume state) :=
  ⟨hunlocked, hidle, rfl, rfl⟩

theorem processTilt_settled (state : State) (status : Status) (arg : Int32)
    (answers : Answers) : (processTilt state status arg answers).Settled := by
  let reset := resetTilt (audioPause state).motor arg answers.reset
  obtain ⟨⟨hunlocked, hbalanced⟩, hidle⟩ :=
    k4wMotorSetTilt_released reset.1 (ofInt32 arg) answers.tilt
  refine ⟨quiescent_resumed hunlocked hidle, fun session hmem => ?_⟩
  rcases List.mem_append.mp hmem with hreset | htilt
  · unfold resetTilt at hreset
    split at hreset
    · rw [List.mem_singleton.mp hreset]
      exact (k4wMotorSetTilt_released _ _ _).1.balanced
    · cases hreset
  · rw [List.mem_singleton.mp htilt]
    exact hbalanced

theorem processLed_settled {state : State} (hquiescent : Quiescent state) (status : Status)
    (arg : Int32) (answers : Answers) : (processLed state status arg answers).Settled := by
  obtain ⟨⟨hunlocked, hbalanced⟩, hbusy⟩ :=
    k4wMotorSetLed_released (audioPause state).motor arg answers.led
  refine ⟨quiescent_resumed hunlocked (hbusy.trans hquiescent.idle), fun session hmem => ?_⟩
  rw [List.mem_singleton.mp hmem]
  exact hbalanced

theorem processAccel_settled {state : State} (hquiescent : Quiescent state) (status : Status)
    (answers : Answers) (locals : Locals) :
    (processAccel state status answers locals).Settled := by
  obtain ⟨⟨hunlocked, hbalanced⟩, hbusy⟩ :=
    k4wMotorGetAccel_released (audioPause state).motor answers.accel
      ⟨locals.ax, locals.ay, locals.az⟩
  refine ⟨quiescent_resumed hunlocked (hbusy.trans hquiescent.idle), fun session hmem => ?_⟩
  rw [List.mem_singleton.mp hmem]
  exact hbalanced

theorem processMotorInfo_settled {state : State} (hquiescent : Quiescent state)
    (status : Status) (answers : Answers) (locals : Locals) :
    (processMotorInfo state status answers locals).Settled := by
  obtain ⟨⟨hunlocked, hbalanced⟩, hbusy⟩ :=
    k4wMotorGetTilt_released (audioPause state).motor answers.info locals.tilt
  refine ⟨quiescent_resumed hunlocked (hbusy.trans hquiescent.idle), fun session hmem => ?_⟩
  rw [List.mem_singleton.mp hmem]
  exact hbalanced

theorem processCommand_settled {state : State} (hquiescent : Quiescent state)
    (command : Command) (arg : Int32) (answers : Answers) (locals : Locals) :
    (processCommand state command arg answers locals).Settled := by
  cases command with
  | tilt => exact processTilt_settled state _ arg answers
  | led => exact processLed_settled hquiescent _ arg answers
  | accel => exact processAccel_settled hquiescent _ answers locals
  | motorInfo => exact processMotorInfo_settled hquiescent _ answers locals
  | status | other => exact ⟨hquiescent, nofun⟩

/-! ## Connections -/

/-- Serving one connection leaves the daemon quiescent. -/
theorem serve_settled {state : State} (hquiescent : Quiescent state) (connection : Connection) :
    Quiescent ((serve state connection).state.getD state) ∧
      Served connection (serve state connection) := by
  have hidle : ∀ session ∈ ([] : List Session), Balanced session.calls :=
    fun _ hsession => absurd hsession List.not_mem_nil
  unfold serve
  cases hset : connection.pointerSet with
  | false =>
      have hnot : ¬connection.Answered := by
        rintro ⟨hanswered, -⟩
        rw [hset] at hanswered
        cases hanswered
      exact ⟨hquiescent, ⟨hidle, rfl, fun h => absurd h hnot, fun _ => rfl⟩⟩
  | true =>
      rw [if_pos rfl]
      cases hreceived : connection.received with
      | none =>
          have hnot : ¬connection.Answered := by
            rintro ⟨-, bytes, hbytes, -⟩
            rw [hreceived] at hbytes
            cases hbytes
          exact ⟨hquiescent, ⟨hidle, rfl, fun h => absurd h hnot, fun _ => rfl⟩⟩
      | some bytes =>
          simp only [k4wSocketHandle]
          split
          case isTrue hshort =>
              have hnot : ¬connection.Answered := by
                rintro ⟨-, other, hbytes, hlength⟩
                rw [hreceived] at hbytes
                cases hbytes
                exact hshort hlength
              exact ⟨hquiescent, ⟨hidle, rfl, fun h => absurd h hnot, fun _ => rfl⟩⟩
          case isFalse hwhole =>
              have hsettled := processCommand_settled hquiescent (commandOf bytes) (argOf bytes)
                connection.answers connection.locals
              have hanswered : connection.Answered :=
                ⟨hset, bytes, hreceived, not_not.mp hwhole⟩
              exact ⟨hsettled.quiescent,
                ⟨hsettled.balanced, rfl, fun _ => rfl, fun h => absurd hanswered h⟩⟩

theorem leavesQuiescent_step {desk next : Desk} {connection : Connection}
    (hleaves : LeavesQuiescent desk) (hstep : step desk connection = some next) :
    LeavesQuiescent next := by
  cases hstep
  obtain ⟨hquiescent, hserved⟩ := serve_settled hleaves.quiescent connection
  refine ⟨hquiescent, fun entry hmem => ?_⟩
  rcases List.mem_append.mp hmem with hold | hnew
  · exact hleaves.served entry hold
  · rw [List.mem_singleton.mp hnew]
    exact hserved

/-- Every request leaves the daemon quiescent and everything given back. -/
theorem leavesQuiescent_of_connections {desk : Desk} (hreach : socketThread.Reachable desk) :
    LeavesQuiescent desk := by
  have hstart : ∀ {first : Desk}, socketThread.Start first → LeavesQuiescent first := by
    rintro first ⟨hquiescent, hnone⟩
    refine ⟨hquiescent, fun entry hmem => ?_⟩
    rw [hnone] at hmem
    cases hmem
  exact hreach.invariant hstart leavesQuiescent_step

/-- A tilt request on a resting daemon, and a client that sends nothing. -/
theorem leavesQuiescent_tiltThenSilence : ∃ desk, socketThread.Reachable desk ∧
    desk.served.length = 2 ∧ LeavesQuiescent desk := by
  let whole : Connection := ⟨true, some (request 0), answersOf true fullXfer, filledLocals 0⟩
  let silent : Connection := ⟨true, none, answersOf true fullXfer, filledLocals 0⟩
  obtain ⟨desk, hplay, hserved⟩ : ∃ desk,
      socketThread.play ⟨restingState, []⟩ [whole, silent] = some desk ∧
        desk.served.length = 2 := ⟨_, rfl, rfl⟩
  have hreach : socketThread.Reachable desk :=
    ⟨_, _, ⟨⟨rfl, rfl, rfl, rfl⟩, rfl⟩, Machine.run_of_play hplay⟩
  exact ⟨desk, hreach, hserved, leavesQuiescent_of_connections hreach⟩

end K4W.Daemon.SocketHandle
