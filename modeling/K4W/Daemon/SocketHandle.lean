import K4W.Motor.Control

/-!
# The socket handler

`k4w_socket_handle` serves one request of a client.  Its inputs are the state
of the daemon, what `recv` returns, the answers of libusb, and the initial
contents of its local variables.
-/

namespace K4W.Daemon.SocketHandle

open K4W.Library.Binary
open K4W.Motor

/-! ## Requests and replies -/

/-- `k4w_cmd_type_t`, and the other values that a client may send. -/
inductive Command where
  | tilt
  | led
  | status
  | accel
  | motorInfo
  | other
deriving DecidableEq

def Command.ofInt (type : Int32) : Command :=
  if type = 0 then .tilt
  else if type = 1 then .led
  else if type = 2 then .status
  else if type = 3 then .accel
  else if type = 4 then .motorInfo
  else .other

/-- `k4w_status_t`; the two texts are without their zero bytes. -/
structure Status where
  ok : Bool
  tiltDeg : Single
  accelX : Single
  accelY : Single
  accelZ : Single
  v4l2Dev : List UInt8
  audioSrc : List UInt8
  depthSeq : UInt32
  videoSeq : UInt32
  audioSeq : UInt32

/--
What the handler uses of the daemon: the two texts, `seq` of each segment that
is mapped, the pause flags, and the statics of the motor.
-/
structure State where
  v4l2Device : List UInt8
  audioSource : List UInt8
  depthShm : Option UInt32
  videoShm : Option UInt32
  audioShm : Option UInt32
  motorPaused : Bool
  gAudioPaused : Bool
  motor : MotorState

/-- The local variables that the handler does not initialise. -/
structure Locals where
  ax : Double
  ay : Double
  az : Double
  tilt : Double

/-- The answers of libusb, for each motor call that a request can make. -/
structure Answers where
  reset : TiltAnswers
  tilt : TiltAnswers
  led : LedAnswers
  accel : GetAnswers
  info : GetAnswers

/-- What the handler does with the descriptor of the client. -/
inductive ClientCall where
  | recv
  | send (status : Status)
  | close

structure Handled where
  state : Option State
  client : List ClientCall
  sessions : List Session

/-- The replies sent to the client. -/
def Handled.sent (handled : Handled) : List Status :=
  handled.client.filterMap fun
    | .send status => some status
    | _ => none

/-! ## Processing a command -/

/-- The text that `strncpy` copies into a zeroed array of 64 bytes. -/
def copiedText (source : List UInt8) : List UInt8 :=
  (source.takeWhile (· ≠ 0)).take 63

/-- The fields that every reply carries. -/
def initialStatus (state : State) : Status where
  ok := true
  tiltDeg := .round binary32 0
  accelX := .round binary32 0
  accelY := .round binary32 0
  accelZ := .round binary32 0
  v4l2Dev := copiedText state.v4l2Device
  audioSrc := copiedText state.audioSource
  depthSeq := state.depthShm.getD 0
  videoSeq := state.videoShm.getD 0
  audioSeq := state.audioShm.getD 0

/-- The flags that `k4w_kinect_audio_pause` leaves. -/
def audioPause (state : State) : State :=
  { state with gAudioPaused := true, motorPaused := true }

/-- The flags that `k4w_kinect_audio_resume` leaves. -/
def audioResume (state : State) : State :=
  { state with motorPaused := false, gAudioPaused := false }

structure Processed where
  status : Status
  state : State
  sessions : List Session

/-- The motor goes to 0 degrees first when the target is below the last known tilt. -/
def Descends (motor : MotorState) (arg : Int32) : Prop :=
  arg < toInt32 motor.currentTilt

instance (motor : MotorState) (arg : Int32) : Decidable (Descends motor arg) :=
  inferInstanceAs (Decidable (arg < _))

def resetTilt (motor : MotorState) (arg : Int32) (answers : TiltAnswers) :
    MotorState × List Session :=
  if Descends motor arg then
    let called := k4wMotorSetTilt motor (ofInt32 0) answers
    (called.motor, [called.session])
  else
    (motor, [])

def processTilt (state : State) (status : Status) (arg : Int32) (answers : Answers) :
    Processed :=
  let paused := audioPause state
  let reset := resetTilt paused.motor arg answers.reset
  let called := k4wMotorSetTilt reset.1 (ofInt32 arg) answers.tilt
  { status := {
      status with
      tiltDeg := called.motor.currentTilt.convert binary32, ok := decide (called.rc = 0) }
    state := audioResume { paused with motor := called.motor }
    sessions := reset.2 ++ [called.session] }

def processLed (state : State) (status : Status) (arg : Int32) (answers : Answers) :
    Processed :=
  let paused := audioPause state
  let called := k4wMotorSetLed paused.motor arg answers.led
  { status := { status with ok := decide (called.rc = 0) }
    state := audioResume { paused with motor := called.motor }
    sessions := [called.session] }

def processAccel (state : State) (status : Status) (answers : Answers) (locals : Locals) :
    Processed :=
  let paused := audioPause state
  let (called, accel) := k4wMotorGetAccel paused.motor answers.accel
    ⟨locals.ax, locals.ay, locals.az⟩
  let tilted := { status with tiltDeg := called.motor.currentTilt.convert binary32 }
  { status :=
      if called.rc = 0 then
        { tilted with
          accelX := accel.x.convert binary32
          accelY := accel.y.convert binary32
          accelZ := accel.z.convert binary32 }
      else
        tilted
    state := audioResume { paused with motor := called.motor }
    sessions := [called.session] }

/-- The result of `k4w_motor_get_tilt` is not looked at. -/
def processMotorInfo (state : State) (status : Status) (answers : Answers)
    (locals : Locals) : Processed :=
  let paused := audioPause state
  let (called, tilt) := k4wMotorGetTilt paused.motor answers.info locals.tilt
  { status := {
      status with
      tiltDeg := tilt.convert binary32, ok := decide (called.motor.busy = 0) }
    state := audioResume { paused with motor := called.motor }
    sessions := [called.session] }

def processCommand (state : State) (command : Command) (arg : Int32) (answers : Answers)
    (locals : Locals) : Processed :=
  let status := initialStatus state
  match command with
  | .tilt => processTilt state status arg answers
  | .led => processLed state status arg answers
  | .accel => processAccel state status answers locals
  | .motorInfo => processMotorInfo state status answers locals
  | .status | .other => { status := status, state := state, sessions := [] }

/-! ## The handler -/

def byteOf (bytes : List UInt8) (offset : Nat) : UInt8 :=
  bytes.getD offset 0

def commandOf (bytes : List UInt8) : Command :=
  .ofInt (int32At (byteOf bytes) 0)

def argOf (bytes : List UInt8) : Int32 :=
  int32At (byteOf bytes) 4

/-- `received` is what `recv` stores, or `none` when it returns an error. -/
def k4wSocketHandle (state : Option State) (received : Option (List UInt8))
    (answers : Answers) (locals : Locals) : Handled :=
  match state with
  | none => { state := none, client := [.close], sessions := [] }
  | some known =>
      match received with
      | none => { state := state, client := [.recv, .close], sessions := [] }
      | some bytes =>
          if bytes.length ≠ 8 then
            { state := state, client := [.recv, .close], sessions := [] }
          else
            let processed :=
              processCommand known (commandOf bytes) (argOf bytes) answers locals
            { state := some processed.state
              client := [.recv, .send processed.status, .close]
              sessions := processed.sessions }

/-- A whole request gets exactly one reply. -/
theorem k4wSocketHandle_sent {state : State} {bytes : List UInt8}
    (hlength : bytes.length = 8) (answers : Answers) (locals : Locals) :
    let handled := k4wSocketHandle (some state) (some bytes) answers locals
    let processed := processCommand state (commandOf bytes) (argOf bytes) answers locals
    handled.sent = [processed.status] ∧ handled.sessions = processed.sessions := by
  simp [k4wSocketHandle, hlength, Handled.sent]

/-! ## Plain inputs -/

def restingMotor : MotorState where
  tagSeq := 0
  currentTilt := ofInt32 0
  targetTilt := ofInt32 0
  busy := 0
  locked := false

/-- A daemon without segments and texts, right after `k4w_motor_init`. -/
def restingState : State where
  v4l2Device := []
  audioSource := []
  depthShm := none
  videoShm := none
  audioShm := none
  motorPaused := false
  gAudioPaused := false
  motor := restingMotor

/-- A transfer of 32 zero bytes. -/
def fullXfer : Xfer := ⟨0, some 32, fun _ => 0⟩

/-- Everything succeeds at the first attempt, or the device is missing. -/
def openAnswers (found : Bool) : OpenAnswers := ⟨found, fun _ => 0, fun _ => (0, 0)⟩

/-- The same answers to every motor function, with one result for the data messages. -/
def answersOf (found : Bool) (data : Xfer) : Answers where
  reset := ⟨openAnswers found, fullXfer, fullXfer, fullXfer, data, fullXfer⟩
  tilt := ⟨openAnswers found, fullXfer, fullXfer, fullXfer, data, fullXfer⟩
  led := ⟨openAnswers found, fullXfer, data⟩
  accel := ⟨openAnswers found, fullXfer, data, fullXfer⟩
  info := ⟨openAnswers found, fullXfer, data, fullXfer⟩

/-- Locals that all contain one integer. -/
def filledLocals (n : Int32) : Locals :=
  ⟨ofInt32 n, ofInt32 n, ofInt32 n, ofInt32 n⟩

/-- A request with argument 0. -/
def request (type : UInt8) : List UInt8 := [type, 0, 0, 0, 0, 0, 0, 0]

end K4W.Daemon.SocketHandle
