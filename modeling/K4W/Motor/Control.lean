import K4W.Library.Binary
import K4W.Motor.Usb

/-!
# Motor commands

The functions of `motor.c` over their statics.  Each one holds `g_motor_lock`
from its first statement to its return, on every path.
-/

namespace K4W.Motor

open K4W.Library.Binary

abbrev Double := Number binary64

abbrev Single := Number binary32

def ofInt32 (n : Int32) : Double :=
  Number.ofInt binary64 n.toInt

/-- The cast to `int`; out of range it is what the x86 instruction returns. -/
def toInt32 (number : Double) : Int32 :=
  match number.truncate? with
  | none => Int32.minValue
  | some n => if -2 ^ 31 ≤ n ∧ n < 2 ^ 31 then Int32.ofInt n else Int32.minValue

/-- The statics of `motor.c` that outlive a command. -/
structure MotorState where
  tagSeq : UInt32
  currentTilt : Double
  targetTilt : Double
  busy : Int32
  locked : Bool

/-- What a motor function returns and leaves. -/
structure Called where
  rc : Int32
  motor : MotorState
  session : Session

/-! ## Packets and readings -/

def tiltCmd (tag : UInt32) (angle : Double) : MotorCmd where
  magic := motorMagicCmd
  tag := tag
  arg1 := 0
  cmd := cmdSetTilt
  arg2 := (toInt32 (angle.mul (ofInt32 2))).toUInt32

def ledCmd (tag : UInt32) (led : Int32) : MotorCmd where
  magic := motorMagicCmd
  tag := tag
  arg1 := 0
  cmd := cmdSetLed
  arg2 := led.toUInt32

def accelCmd (tag : UInt32) : MotorCmd where
  magic := motorMagicCmd
  tag := tag
  arg1 := 0x68
  cmd := cmdGetAccel
  arg2 := 0

/-- The tilt in a data message, in degrees. -/
def tiltReading (data : Nat → UInt8) : Double :=
  (ofInt32 (int32At data 28)).div (ofInt32 2)

/-- An acceleration in a data message, in metres per second squared. -/
def accelReading (data : Nat → UInt8) (offset : Nat) : Double :=
  ((ofInt32 (int32At data offset)).div (ofInt32 819)).mul (.round binary64 (980665 / 100000))

/-- The LED value sent for a colour of the socket protocol. -/
def ledOf (color : Int32) : Int32 :=
  if color = 0 then 1
  else if color = 1 then 3
  else if color = 2 then 4
  else if color = 3 then 3
  else if color = 4 then 2
  else if color = 5 then 4
  else if color = 6 then 2
  else 3

/-! ## LED and tilt -/

structure LedAnswers where
  opening : OpenAnswers
  out : Xfer
  reply : Xfer

def k4wMotorSetLed (motor : MotorState) (color : Int32) (answers : LedAnswers) : Called :=
  let led := ledOf color
  let motor := { motor with locked := true }
  let session := motorOpenDevice answers.opening
  if !session.opened then
    { rc := -1, motor := { motor with locked := false }, session := session }
  else
    { rc := 0
      motor := { motor with tagSeq := motor.tagSeq + 1, locked := false }
      session := session.extend
        ([.bulkOut (ledCmd motor.tagSeq led) 20 answers.out, .bulkIn answers.reply] ++
          motorCloseDevice) }

structure TiltAnswers where
  opening : OpenAnswers
  out : Xfer
  reply : Xfer
  accelOut : Xfer
  data : Xfer
  trailing : Xfer

/-- The angle brought into the range of the motor. -/
def clampAngle (angle : Double) : Double :=
  let angle := if (ofInt32 31).lt angle then ofInt32 31 else angle
  if angle.lt (ofInt32 (-31)) then ofInt32 (-31) else angle

def k4wMotorSetTilt (motor : MotorState) (angle : Double) (answers : TiltAnswers) : Called :=
  let angle := clampAngle angle
  let motor := { motor with locked := true, targetTilt := angle, busy := 1 }
  let session := motorOpenDevice answers.opening
  if !session.opened then
    { rc := -1, motor := { motor with busy := 0, locked := false }, session := session }
  else
    let count := answers.data.count (answers.accelOut.count 0)
    let tilt := if 32 ≤ count then tiltReading answers.data.data else motor.currentTilt
    { rc := 0
      motor := {
        motor with
        tagSeq := motor.tagSeq + 2, currentTilt := tilt, busy := 0, locked := false }
      session := session.extend
        ([.bulkOut (tiltCmd motor.tagSeq angle) 20 answers.out, .bulkIn answers.reply,
          .bulkOut (accelCmd (motor.tagSeq + 1)) 16 answers.accelOut, .bulkIn answers.data,
          .bulkIn answers.trailing] ++ motorCloseDevice) }

/-! ## Readings -/

structure GetAnswers where
  opening : OpenAnswers
  out : Xfer
  data : Xfer
  trailing : Xfer

/-- `transferred` after the data message of a getter. -/
def GetAnswers.count (answers : GetAnswers) : Int32 :=
  answers.data.count (answers.out.count 0)

/--
The exchange that both getters make.  They return early, with the error, when
the device is not opened or when the packet or the data message fails.
-/
def requestAccel (motor : MotorState) (answers : GetAnswers) : Called :=
  let motor := { motor with locked := true }
  let session := motorOpenDevice answers.opening
  if !session.opened then
    { rc := -1, motor := { motor with locked := false }, session := session }
  else
    let unlocked := { motor with tagSeq := motor.tagSeq + 1, locked := false }
    let sent : List UsbCall := [.bulkOut (accelCmd motor.tagSeq) 16 answers.out]
    if answers.out.rc ≠ 0 then
      { rc := answers.out.rc
        motor := unlocked
        session := session.extend (sent ++ motorCloseDevice) }
    else if answers.data.rc ≠ 0 then
      { rc := answers.data.rc
        motor := unlocked
        session := session.extend (sent ++ [.bulkIn answers.data] ++ motorCloseDevice) }
    else
      { rc := 0
        motor := unlocked
        session := session.extend
          (sent ++ [.bulkIn answers.data, .bulkIn answers.trailing] ++ motorCloseDevice) }

/-- `k4w_motor_get_tilt` for a pointer that is not null: the call, and `*angle` after it. -/
def k4wMotorGetTilt (motor : MotorState) (answers : GetAnswers) (angle : Double) :
    Called × Double :=
  let called := requestAccel motor answers
  if called.rc ≠ 0 then
    (called, angle)
  else if 32 ≤ answers.count then
    let tilt := tiltReading answers.data.data
    ({ called with motor := { called.motor with currentTilt := tilt } }, tilt)
  else
    (called, called.motor.currentTilt)

structure Accel where
  x : Double
  y : Double
  z : Double

/-- `k4w_motor_get_accel` for pointers that are not null: the call, and what they point to. -/
def k4wMotorGetAccel (motor : MotorState) (answers : GetAnswers) (accel : Accel) :
    Called × Accel :=
  let called := requestAccel motor answers
  if called.rc ≠ 0 then
    (called, accel)
  else if 28 ≤ answers.count then
    (called, {
      x := accelReading answers.data.data 16
      y := accelReading answers.data.data 20
      z := accelReading answers.data.data 24 })
  else
    (called, accel)

/-! ## Exact values -/

/-- An `int` needs fewer bits than a double has. -/
theorem abs_toInt_lt (n : Int32) : |n.toInt| < 2 ^ binary64.precision := by
  have hlow := n.le_toInt
  have hhigh := n.toInt_lt
  have habs : |n.toInt| ≤ 2 ^ 31 := abs_le.mpr ⟨by omega, by omega⟩
  exact lt_of_le_of_lt habs (by decide)

theorem represents_int32 (n : Int32) : binary64.Represents n.toInt :=
  Number.represents_intCast (abs_toInt_lt n) (by decide) (by decide)

/-- Every `int` is a double. -/
theorem ofInt32_eq (n : Int32) : ofInt32 n = .finite n.toInt (represents_int32 n) :=
  Number.round_eq (represents_int32 n)

/-- A tilt is read without rounding: half of the integer that the device sent. -/
theorem tiltReading_value (data : Nat → UInt8) :
    (tiltReading data).value? = some (((int32At data 28).toInt : Rat) / 2) := by
  have htwo : (((2 : Int32).toInt : Int) : Rat) = 2 := by
    norm_num [show (2 : Int32).toInt = 2 from rfl]
  have hhalf : binary64.Represents (((int32At data 28).toInt : Rat) / 2) :=
    Number.represents_half (abs_toInt_lt _) (by decide) (by decide)
  have hzero := Number.represents_zero binary64 (by decide) (by decide)
  rw [tiltReading, ofInt32_eq, ofInt32_eq]
  rw [Number.div_value _ _ hzero] <;> rw [htwo]
  · norm_num
  · exact hhalf

/-- Integers of up to 24 bits survive the conversion to `float`. -/
theorem convert_ofInt32_value {n : Int32} (hn : |n.toInt| < 2 ^ binary32.precision) :
    ((ofInt32 n).convert binary32).value? = some (n.toInt : Rat) := by
  rw [ofInt32_eq]
  exact Number.convert_value _ (Number.represents_intCast hn (by decide) (by decide))

/-! ## What the calls return -/

/-- The exchange of a getter succeeds. -/
def GetAnswers.Succeeds (answers : GetAnswers) : Prop :=
  (motorOpenDevice answers.opening).opened = true ∧ answers.out.rc = 0 ∧ answers.data.rc = 0

instance (answers : GetAnswers) : Decidable answers.Succeeds :=
  inferInstanceAs (Decidable (_ ∧ _ ∧ _))

theorem requestAccel_rc (motor : MotorState) (answers : GetAnswers) :
    (requestAccel motor answers).rc = 0 ↔ answers.Succeeds := by
  cases hopened : (motorOpenDevice answers.opening).opened with
  | false => simp [requestAccel, GetAnswers.Succeeds, hopened]
  | true =>
      by_cases hout : answers.out.rc = 0
      · by_cases hdata : answers.data.rc = 0
        · simp [requestAccel, GetAnswers.Succeeds, hopened, hout, hdata]
        · simp [requestAccel, GetAnswers.Succeeds, hopened, hout, hdata]
      · simp [requestAccel, GetAnswers.Succeeds, hopened, hout]

/-! ## What the sessions show -/

theorem noTransfer_motorCloseDevice : NoTransfer motorCloseDevice :=
  noTransfer_append (noTransfer_singleton rfl)
    (noTransfer_append (noTransfer_singleton rfl) (noTransfer_singleton rfl))

/-- Which transfers of a session failed, seen without the calls around them. -/
theorem outFailed_session {answers : OpenAnswers} (transfers : List UsbCall) :
    OutFailed ((motorOpenDevice answers).extend (transfers ++ motorCloseDevice)).calls ↔
      OutFailed transfers := by
  have hopen := not_outFailed_of_noTransfer (noTransfer_motorOpenDevice answers)
  have hclose := not_outFailed_of_noTransfer noTransfer_motorCloseDevice
  simp only [Session.extend, outFailed_append]
  constructor
  · rintro (hfailed | hfailed | hfailed)
    · exact absurd hfailed hopen
    · exact hfailed
    · exact absurd hfailed hclose
  · exact fun hfailed => .inr (.inl hfailed)

theorem responseTo_session {cmd : UInt32} {answers : OpenAnswers} (calls : List UsbCall) :
    responseTo cmd ((motorOpenDevice answers).extend calls).calls = responseTo cmd calls :=
  responseTo_append (noTransfer_motorOpenDevice answers) calls

theorem k4wMotorSetTilt_opened {motor : MotorState} {angle : Double} {answers : TiltAnswers}
    (hopened : (motorOpenDevice answers.opening).opened = true) :
    let called := k4wMotorSetTilt motor angle answers
    called.rc = 0 ∧ called.session.opened = true ∧
      (OutFailed called.session.calls ↔ answers.out.rc ≠ 0 ∨ answers.accelOut.rc ≠ 0) ∧
      responseTo cmdGetAccel called.session.calls = some answers.data := by
  have hne : cmdSetTilt ≠ cmdGetAccel := by decide
  simp only [k4wMotorSetTilt, hopened, Bool.not_true, Bool.false_eq_true, if_false,
    outFailed_session, responseTo_session]
  refine ⟨trivial, hopened, ?_, ?_⟩
  · simp
  · simp [responseTo, tiltCmd, accelCmd, hne]

theorem k4wMotorSetTilt_unopened {motor : MotorState} {angle : Double}
    {answers : TiltAnswers} (hopened : (motorOpenDevice answers.opening).opened = false) :
    let called := k4wMotorSetTilt motor angle answers
    called.rc = -1 ∧ called.session = motorOpenDevice answers.opening := by
  simp [k4wMotorSetTilt, hopened]

theorem k4wMotorSetLed_opened {motor : MotorState} {color : Int32} {answers : LedAnswers}
    (hopened : (motorOpenDevice answers.opening).opened = true) :
    let called := k4wMotorSetLed motor color answers
    called.rc = 0 ∧ called.session.opened = true ∧
      (OutFailed called.session.calls ↔ answers.out.rc ≠ 0) ∧
      responseTo cmdSetLed called.session.calls = some answers.reply := by
  simp only [k4wMotorSetLed, hopened, Bool.not_true, Bool.false_eq_true, if_false,
    outFailed_session, responseTo_session]
  refine ⟨trivial, hopened, ?_, ?_⟩
  · simp
  · simp [responseTo, ledCmd]

theorem k4wMotorSetLed_unopened {motor : MotorState} {color : Int32} {answers : LedAnswers}
    (hopened : (motorOpenDevice answers.opening).opened = false) :
    let called := k4wMotorSetLed motor color answers
    called.rc = -1 ∧ called.session = motorOpenDevice answers.opening := by
  simp [k4wMotorSetLed, hopened]

theorem requestAccel_opened {motor : MotorState} {answers : GetAnswers}
    (hopened : (motorOpenDevice answers.opening).opened = true) :
    let called := requestAccel motor answers
    called.session.opened = true ∧
      (OutFailed called.session.calls ↔ answers.out.rc ≠ 0) ∧
      responseTo cmdGetAccel called.session.calls =
        if answers.out.rc = 0 then some answers.data else none := by
  simp only [requestAccel, hopened, Bool.not_true, Bool.false_eq_true, if_false]
  split
  case isTrue hout =>
      simp only [outFailed_session, responseTo_session]
      refine ⟨hopened, by simp, ?_⟩
      simp [responseTo, motorCloseDevice]
  case isFalse hout =>
      split
      · simp only [outFailed_session, responseTo_session]
        refine ⟨hopened, by simp, ?_⟩
        simp [responseTo, accelCmd, hout]
      · simp only [outFailed_session, responseTo_session]
        refine ⟨hopened, by simp, ?_⟩
        simp [responseTo, accelCmd, hout]

theorem requestAccel_unopened {motor : MotorState} {answers : GetAnswers}
    (hopened : (motorOpenDevice answers.opening).opened = false) :
    (requestAccel motor answers).session = motorOpenDevice answers.opening := by
  simp [requestAccel, hopened]

/-- `k4w_motor_get_tilt` adds nothing to the exchange that its caller could observe. -/
theorem k4wMotorGetTilt_called (motor : MotorState) (answers : GetAnswers) (angle : Double) :
    (k4wMotorGetTilt motor answers angle).1.session = (requestAccel motor answers).session ∧
      (k4wMotorGetTilt motor answers angle).1.motor.busy = motor.busy := by
  have hbusy : (requestAccel motor answers).motor.busy = motor.busy := by
    simp only [requestAccel]
    split
    · rfl
    · split
      · rfl
      · split <;> rfl
  unfold k4wMotorGetTilt
  dsimp only
  split
  · exact ⟨rfl, hbusy⟩
  · split <;> exact ⟨rfl, hbusy⟩

theorem k4wMotorGetAccel_called (motor : MotorState) (answers : GetAnswers) (accel : Accel) :
    (k4wMotorGetAccel motor answers accel).1 = requestAccel motor answers := by
  unfold k4wMotorGetAccel
  dsimp only
  split
  · rfl
  · split <;> rfl

end K4W.Motor
