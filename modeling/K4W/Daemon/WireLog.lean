import K4W.Daemon.TiltReset
import K4W.Motor.Orders

/-!
# The transfers to the motor

What all requests of a run put on the bus.  Read by the device, it is the
sequence of the orders that the requests stand for, under consecutive numbers:
no packet is malformed, none asks for an angle or a light that the motor does
not have, and no number is skipped or used twice before the counter wraps.
-/

namespace K4W.Daemon.SocketHandle

open K4W.Library
open K4W.Motor

/-! ## Orders of a request -/

/-- The colours of the socket protocol on a device without yellow. -/
def lightOf (color : Int32) : Light :=
  if color = 0 then .off
  else if color = 2 ∨ color = 5 then .red
  else if color = 4 ∨ color = 6 then .blink
  else .green

theorem code_lightOf (color : Int32) :
    (lightOf color).code = (ledOf color).toUInt32 := by
  by_cases h : color = 0 ∨ color = 1 ∨ color = 2 ∨ color = 3 ∨ color = 4 ∨ color = 5 ∨ color = 6
  · rcases h with rfl | rfl | rfl | rfl | rfl | rfl | rfl <;> decide
  · simp only [not_or] at h
    have hlight : lightOf color = .green := by simp [lightOf, h]
    have hled : ledOf color = 3 := by simp [ledOf, h]
    rw [hlight, hled]
    rfl

/-- The angle of a request, brought into the range of the motor. -/
def angleOf (arg : Int32) : Angle where
  degrees := (clampArg arg).toInt
  low := (clampArg_range arg).1
  high := (clampArg_range arg).2

/-- The orders that are given when the device can be opened. -/
def ordersWhen (answers : OpenAnswers) (orders : List Order) : List Order :=
  if (motorOpenDevice answers).opened then orders else []

/-- Turn to an angle, and look where the motor stands then. -/
def turnOrders (arg : Int32) (answers : TiltAnswers) : List Order :=
  ordersWhen answers.opening [.turn (angleOf arg), .measure]

/-- What a request stands for. -/
def requestOrders (motor : MotorState) (command : Command) (arg : Int32) (answers : Answers) :
    List Order :=
  match command with
  | .tilt =>
      (if Descends motor arg then turnOrders 0 answers.reset else []) ++
        turnOrders arg answers.tilt
  | .led => ordersWhen answers.led.opening [.shine (lightOf arg)]
  | .accel => ordersWhen answers.accel.opening [.measure]
  | .motorInfo => ordersWhen answers.info.opening [.measure]
  | .status | .other => []

/-- The command and the argument of a whole request to a daemon that is set up. -/
def Connection.request? (connection : Connection) : Option (Command × Int32) :=
  if connection.pointerSet then
    connection.received.bind fun bytes =>
      if bytes.length = 8 then some (commandOf bytes, argOf bytes) else none
  else none

/-- The orders of a connection that is served in a state; anything short stands for none. -/
def ordersOf (served : ServedConnection) : List Order :=
  match served.input.request? with
  | some (command, arg) => requestOrders served.before.motor command arg served.input.answers
  | none => []

/-! ## What goes out -/

/-- The bytes that a call hands over for the device. -/
def sentBytes : UsbCall → Option (List UInt8)
  | .bulkOut packet length _ => some (packet.bytes.take length)
  | _ => none

/-- The transfers of the sessions, first one first. -/
def wireLog (sessions : List Session) : List (List UInt8) :=
  sessions.flatMap fun session => session.calls.filterMap sentBytes

theorem wireLog_append (front back : List Session) :
    wireLog (front ++ back) = wireLog front ++ wireLog back :=
  List.flatMap_append

theorem sentBytes_noTransfer {calls : List UsbCall} (hcalls : NoTransfer calls) :
    calls.filterMap sentBytes = [] := by
  rw [List.filterMap_eq_nil_iff]
  intro call hcall
  have hnone := hcalls call hcall
  cases call with
  | bulkOut packet length result => simp [isTransfer] at hnone
  | _ => rfl

/-- Opening and closing puts nothing on the bus. -/
theorem wireLog_session (answers : OpenAnswers) (transfers : List UsbCall) :
    wireLog [(motorOpenDevice answers).extend (transfers ++ motorCloseDevice)] =
      transfers.filterMap sentBytes := by
  rw [wireLog, List.flatMap_singleton]
  simp only [Session.extend, List.filterMap_append,
    sentBytes_noTransfer (noTransfer_motorOpenDevice answers),
    sentBytes_noTransfer noTransfer_motorCloseDevice, List.nil_append, List.append_nil]

theorem wireLog_motorOpenDevice (answers : OpenAnswers) :
    wireLog [motorOpenDevice answers] = [] := by
  rw [wireLog, List.flatMap_singleton]
  exact sentBytes_noTransfer (noTransfer_motorOpenDevice answers)

theorem sentBytes_packet {packet : MotorCmd} {order : Order} {tag : UInt32}
    (hpacket : packet = order.packet tag) (result : Xfer) :
    sentBytes (.bulkOut packet order.length result) = some (order.wire tag) := by
  rw [hpacket]
  rfl

/-! ## The motor functions -/

/-- Orders went out under the numbers that the counter gave, and the counter went on. -/
structure Sends (before after : UInt32) (sessions : List Session) (orders : List Order) :
    Prop where
  wire : wireLog sessions = numbered before orders
  counted : after = before + UInt32.ofNat orders.length

theorem Sends.nothing (tag : UInt32) : Sends tag tag [] [] :=
  ⟨rfl, (UInt32.add_zero tag).symm⟩

theorem Sends.unopened (tag : UInt32) (answers : OpenAnswers) :
    Sends tag tag [motorOpenDevice answers] [] :=
  ⟨wireLog_motorOpenDevice answers, (UInt32.add_zero tag).symm⟩

theorem Sends.append {before middle after : UInt32} {front back : List Session}
    {first second : List Order} (hfront : Sends before middle front first)
    (hback : Sends middle after back second) :
    Sends before after (front ++ back) (first ++ second) := by
  refine ⟨?_, ?_⟩
  · rw [wireLog_append, hfront.wire, hback.wire, numbered_append, hfront.counted]
  · rw [hback.counted, hfront.counted, List.length_append, UInt32.ofNat_add, UInt32.add_assoc]

theorem tiltCmd_packet (tag : UInt32) (arg : Int32) :
    tiltCmd tag (ofInt32 (clampArg arg)) = (Order.turn (angleOf arg)).packet tag := by
  have hword : (tiltCmd tag (ofInt32 (clampArg arg))).arg2 = (angleOf arg).word := by
    have hsent := tiltCmd_arg2 tag arg
    rw [← Int32.ofInt_toInt (tiltCmd tag (ofInt32 (clampArg arg))).arg2.toInt32] at hsent
    have hsame := congrArg Int32.ofInt hsent
    rw [Int32.ofInt_toInt, Int32.ofInt_toInt] at hsame
    exact congrArg Int32.toUInt32 hsame
  rw [Order.packet, ← hword]
  rfl

theorem ledCmd_packet (tag : UInt32) (color : Int32) :
    ledCmd tag (ledOf color) = (Order.shine (lightOf color)).packet tag := by
  rw [Order.packet, code_lightOf]
  rfl

theorem sends_k4wMotorSetTilt (motor : MotorState) (arg : Int32) (answers : TiltAnswers) :
    let called := k4wMotorSetTilt motor (ofInt32 arg) answers
    Sends motor.tagSeq called.motor.tagSeq [called.session] (turnOrders arg answers) := by
  cases hopened : (motorOpenDevice answers.opening).opened with
  | false =>
      simp only [k4wMotorSetTilt, turnOrders, ordersWhen, hopened, Bool.not_false,
        Bool.false_eq_true, if_true, if_false]
      exact Sends.unopened _ _
  | true =>
      simp only [k4wMotorSetTilt, turnOrders, ordersWhen, hopened, Bool.not_true,
        Bool.false_eq_true, if_true, if_false, clampAngle_ofInt32]
      refine ⟨(wireLog_session _ _).trans ?_, rfl⟩
      have hturn : sentBytes (.bulkOut (tiltCmd motor.tagSeq (ofInt32 (clampArg arg))) 20
          answers.out) = some ((Order.turn (angleOf arg)).wire motor.tagSeq) :=
        sentBytes_packet (tiltCmd_packet _ arg) _
      rw [List.filterMap_cons_some hturn]
      rfl

theorem sends_k4wMotorSetLed (motor : MotorState) (color : Int32) (answers : LedAnswers) :
    let called := k4wMotorSetLed motor color answers
    Sends motor.tagSeq called.motor.tagSeq [called.session]
      (ordersWhen answers.opening [.shine (lightOf color)]) := by
  cases hopened : (motorOpenDevice answers.opening).opened with
  | false =>
      simp only [k4wMotorSetLed, ordersWhen, hopened, Bool.not_false, Bool.false_eq_true,
        if_true, if_false]
      exact Sends.unopened _ _
  | true =>
      simp only [k4wMotorSetLed, ordersWhen, hopened, Bool.not_true, Bool.false_eq_true,
        if_true, if_false]
      refine ⟨(wireLog_session _ _).trans ?_, rfl⟩
      have hshine : sentBytes (.bulkOut (ledCmd motor.tagSeq (ledOf color)) 20 answers.out) =
          some ((Order.shine (lightOf color)).wire motor.tagSeq) :=
        sentBytes_packet (ledCmd_packet _ color) _
      rw [List.filterMap_cons_some hshine]
      rfl

/-- A getter that returns early has sent its packet all the same. -/
theorem sends_requestAccel (motor : MotorState) (answers : GetAnswers) :
    let called := requestAccel motor answers
    Sends motor.tagSeq called.motor.tagSeq [called.session]
      (ordersWhen answers.opening [.measure]) := by
  cases hopened : (motorOpenDevice answers.opening).opened with
  | false =>
      simp only [requestAccel, ordersWhen, hopened, Bool.not_false, Bool.false_eq_true,
        if_true, if_false]
      exact Sends.unopened _ _
  | true =>
      have hlog : ∀ reads : List UsbCall, reads.filterMap sentBytes = [] →
          Sends motor.tagSeq (motor.tagSeq + 1)
            [(motorOpenDevice answers.opening).extend
              ([.bulkOut (accelCmd motor.tagSeq) 16 answers.out] ++ reads ++ motorCloseDevice)]
            [.measure] := by
        intro reads hreads
        refine ⟨(wireLog_session _ _).trans ?_, rfl⟩
        rw [List.filterMap_append, hreads]
        rfl
      simp only [requestAccel, ordersWhen, hopened, Bool.not_true, Bool.false_eq_true,
        if_true, if_false]
      split
      · exact hlog [] rfl
      · split
        · exact hlog [.bulkIn answers.data] rfl
        · exact hlog [.bulkIn answers.data, .bulkIn answers.trailing] rfl

theorem sends_k4wMotorGetTilt (motor : MotorState) (answers : GetAnswers) (angle : Double) :
    let called := (k4wMotorGetTilt motor answers angle).1
    Sends motor.tagSeq called.motor.tagSeq [called.session]
      (ordersWhen answers.opening [.measure]) := by
  have hsame : (k4wMotorGetTilt motor answers angle).1.motor.tagSeq =
      (requestAccel motor answers).motor.tagSeq := by
    unfold k4wMotorGetTilt
    dsimp only
    split
    · rfl
    · split <;> rfl
  dsimp only
  rw [hsame, (k4wMotorGetTilt_called motor answers angle).1]
  exact sends_requestAccel motor answers

/-! ## Requests -/

/-- A request puts on the bus what it stands for. -/
theorem sends_processCommand (state : State) (command : Command) (arg : Int32)
    (answers : Answers) (locals : Locals) :
    let processed := processCommand state command arg answers locals
    Sends state.motor.tagSeq processed.state.motor.tagSeq processed.sessions
      (requestOrders state.motor command arg answers) := by
  have hpaused : (audioPause state).motor = state.motor := rfl
  cases command with
  | tilt =>
      have hreset : Sends state.motor.tagSeq (resetTilt state.motor arg answers.reset).1.tagSeq
          (resetTilt state.motor arg answers.reset).2
          (if Descends state.motor arg then turnOrders 0 answers.reset else []) := by
        by_cases hdescends : Descends state.motor arg
        · simp only [resetTilt, hdescends, if_true]
          exact sends_k4wMotorSetTilt state.motor 0 answers.reset
        · simp only [resetTilt, hdescends, if_false]
          exact Sends.nothing _
      exact hreset.append (sends_k4wMotorSetTilt _ arg answers.tilt)
  | led => exact sends_k4wMotorSetLed state.motor arg answers.led
  | accel =>
      have hcalled := k4wMotorGetAccel_called (audioPause state).motor answers.accel
        ⟨locals.ax, locals.ay, locals.az⟩
      have haccel := sends_requestAccel state.motor answers.accel
      rw [hpaused] at hcalled
      rw [← hcalled] at haccel
      exact haccel
  | motorInfo => exact sends_k4wMotorGetTilt state.motor answers.info locals.tilt
  | status => exact Sends.nothing _
  | other => exact Sends.nothing _

/-- A connection puts on the bus what its request stands for. -/
theorem sends_iterate (start state : State) (connection : Connection) :
    let served := (serving start).iterate state connection
    Sends state.motor.tagSeq served.after.motor.tagSeq served.output.sessions
      (ordersOf served) := by
  change Sends state.motor.tagSeq ((serve state connection).state.getD state).motor.tagSeq
    (serve state connection).sessions (ordersOf ((serving start).iterate state connection))
  have horders : ordersOf ((serving start).iterate state connection) =
      match connection.request? with
      | some (command, arg) => requestOrders state.motor command arg connection.answers
      | none => [] := rfl
  rw [horders]
  unfold serve Connection.request?
  cases hset : connection.pointerSet with
  | false => exact Sends.nothing _
  | true =>
      simp only [if_true]
      cases hreceived : connection.received with
      | none => exact Sends.nothing _
      | some bytes =>
          by_cases hlength : bytes.length = 8
          · simp only [k4wSocketHandle, hlength, ne_eq, not_true, if_false, if_true,
              Option.bind_some]
            exact sends_processCommand state _ _ _ _
          · simp only [k4wSocketHandle, hlength, ne_eq, not_false_iff, if_true, if_false,
              Option.bind_some]
            exact Sends.nothing _

/-! ## Runs -/

/-- All transfers of a run. -/
def busLog (run : List ServedConnection) : List (List UInt8) :=
  wireLog (run.flatMap fun served => served.output.sessions)

/-- The bus carries the orders of all requests, numbered through. -/
theorem sends_run (start : State) (connections : List Connection) :
    Sends start.motor.tagSeq ((serving start).state connections).motor.tagSeq
      (((serving start).run connections).flatMap fun served => served.output.sessions)
      (((serving start).run connections).flatMap ordersOf) := by
  refine @Loop.run_invariant _ _ _ (serving start) (fun run state =>
    Sends start.motor.tagSeq state.motor.tagSeq
      (run.flatMap fun served => served.output.sessions) (run.flatMap ordersOf))
    (Sends.nothing _) ?_ connections
  intro run state connection hsends
  have hserved := sends_iterate start state connection
  simp only [List.flatMap_append, List.flatMap_singleton]
  exact hsends.append hserved

/--
From any state and for any connections and answers of libusb, a device that
reads the bus finds exactly the orders of the requests, numbered from the
counter of the first state on.
-/
theorem busLog_readOrder (start : State) (connections : List Connection) :
    let run := (serving start).run connections
    (busLog run).map readOrder =
      (run.flatMap ordersOf).mapIdx fun index order =>
        some (start.motor.tagSeq + UInt32.ofNat index, order) := by
  intro run
  rw [busLog, (sends_run start connections).wire]
  exact readOrder_numbered _ _

end K4W.Daemon.SocketHandle
