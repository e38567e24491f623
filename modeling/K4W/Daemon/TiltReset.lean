import K4W.Daemon.Quiescence
import K4W.Daemon.ReplyTruth
import K4W.Library.Loop

/-!
# Reset before descending

A `TILT` request whose argument is below the tilt, truncated to an `int`, sends
the motor to 0 degrees first.  The angle that is sent last is the argument
clamped to the range of the motor, and the result of the reset is not looked at.
-/

namespace K4W.Daemon.SocketHandle

open K4W.Library
open K4W.Library.Binary
open K4W.Motor

/-! ## Angles in half degrees -/

/-- The argument of a request, brought into the range of the motor. -/
def clampArg (arg : Int32) : Int32 :=
  if 31 < arg then 31 else if arg < -31 then -31 else arg

theorem clampArg_range (arg : Int32) :
    -31 ≤ (clampArg arg).toInt ∧ (clampArg arg).toInt ≤ 31 := by
  have hhigh : (31 : Int32).toInt = 31 := rfl
  have hlow : (-31 : Int32).toInt = -31 := rfl
  unfold clampArg
  split
  · rw [hhigh]
    decide
  · split
    · rw [hlow]
      decide
    · rename_i hnotHigh hnotLow
      rw [Int32.lt_iff_toInt_lt, hhigh] at hnotHigh
      rw [Int32.lt_iff_toInt_lt, hlow] at hnotLow
      exact ⟨Int.not_lt.mp hnotLow, Int.not_lt.mp hnotHigh⟩

theorem ofInt32_lt (left right : Int32) :
    (ofInt32 left).lt (ofInt32 right) = decide (left < right) := by
  rw [ofInt32_eq, ofInt32_eq, Number.lt_finite]
  simp only [Int.cast_lt, Int32.lt_iff_toInt_lt]

/-- Clamping a whole number of degrees is exact. -/
theorem clampAngle_ofInt32 (arg : Int32) : clampAngle (ofInt32 arg) = ofInt32 (clampArg arg) := by
  unfold clampAngle clampArg
  simp only [ofInt32_lt, decide_eq_true_eq]
  by_cases hhigh : 31 < arg
  · rw [if_pos hhigh, if_pos hhigh, ofInt32_lt]
    rfl
  · rw [if_neg hhigh, if_neg hhigh, ofInt32_lt]
    by_cases hlow : arg < -31
    · simp [hlow]
    · simp [hlow]

/-- The cast of a whole number that an `int` can hold is exact. -/
theorem toInt32_of_int {number : Double} {n : Int} (hvalue : number.value? = some (n : Rat))
    (hlow : -2 ^ 31 ≤ n) (hhigh : n < 2 ^ 31) : (toInt32 number).toInt = n := by
  have htruncate : number.truncate? = some n := by
    rw [Number.truncate?, hvalue, Option.map_some, Number.towardsZero]
    split
    · rw [Int.ceil_intCast]
    · rw [Int.floor_intCast]
  rw [toInt32, htruncate]
  simp only [hlow, hhigh, and_self, if_true]
  exact Int32.toInt_ofInt_of_le hlow (by omega)

/-- The packet carries twice the whole number of degrees. -/
theorem tiltCmd_arg2 (tag : UInt32) (arg : Int32) :
    (tiltCmd tag (ofInt32 (clampArg arg))).arg2.toInt32.toInt = 2 * (clampArg arg).toInt := by
  obtain ⟨hlow, hhigh⟩ := clampArg_range arg
  have htwo : (2 : Int32).toInt = 2 := rfl
  have hproduct : ((clampArg arg).toInt : Rat) * ((2 : Int32).toInt : Rat) =
      ((2 * (clampArg arg).toInt : Int) : Rat) := by
    rw [htwo, Int.cast_mul, mul_comm]
  have hsmall : |2 * (clampArg arg).toInt| < 2 ^ binary64.precision := by
    have habs : |2 * (clampArg arg).toInt| ≤ 62 := abs_le.mpr ⟨by omega, by omega⟩
    exact lt_of_le_of_lt habs (by decide)
  have hrepresents : binary64.Represents
      (((clampArg arg).toInt : Rat) * ((2 : Int32).toInt : Rat)) := by
    rw [hproduct]
    exact Number.represents_intCast hsmall (by decide) (by decide)
  have hvalue : ((ofInt32 (clampArg arg)).mul (ofInt32 2)).value? =
      some ((2 * (clampArg arg).toInt : Int) : Rat) := by
    rw [ofInt32_eq, ofInt32_eq, ← hproduct]
    exact Number.mul_value _ _ (Number.represents_zero _ (by decide) (by decide)) hrepresents
  have hcast := toInt32_of_int hvalue (by omega) (by omega)
  simpa [tiltCmd] using hcast

/-- The tilt is half of an integer that the device sent, or of the initial zero. -/
def HalfDegrees (tilt : Double) (reading : Int32) : Prop :=
  tilt.value? = some ((reading.toInt : Rat) / 2)

/-- The argument is below the tilt truncated to a whole number of degrees. -/
def BelowTruncated (reading arg : Int32) : Prop :=
  if reading.toInt < 0 then 2 * arg.toInt < reading.toInt
  else 2 * arg.toInt + 2 ≤ reading.toInt

theorem HalfDegrees.unique {tilt : Double} {reading other : Int32}
    (hreading : HalfDegrees tilt reading) (hother : HalfDegrees tilt other) :
    reading = other := by
  have hsame := Option.some.inj (hreading.symm.trans hother)
  have hcast : (reading.toInt : Rat) = other.toInt := by linarith
  exact Int32.toInt_inj.mp (by exact_mod_cast hcast)

theorem lt_ceil_half (n a : Int) : a < ⌈(n : Rat) / 2⌉ ↔ 2 * a < n := by
  rw [Int.lt_ceil, lt_div_iff₀ (by norm_num), mul_comm]
  exact_mod_cast Iff.rfl

theorem lt_floor_half (n a : Int) : a < ⌊(n : Rat) / 2⌋ ↔ 2 * a + 2 ≤ n := by
  rw [← Int.add_one_le_iff, Int.le_floor, le_div_iff₀ (by norm_num), mul_comm]
  have hdouble : (2 : Rat) * ((a + 1 : Int) : Rat) = ((2 * a + 2 : Int) : Rat) := by
    push_cast
    ring
  rw [hdouble]
  exact Int.cast_le

/-- What is below the tilt cast to `int`. -/
theorem lt_toInt32_half {tilt : Double} {reading : Int32} (htilt : HalfDegrees tilt reading)
    (a : Int) : a < (toInt32 tilt).toInt ↔
      if reading.toInt < 0 then 2 * a < reading.toInt else 2 * a + 2 ≤ reading.toInt := by
  have hlow := reading.le_toInt
  have hhigh := reading.toInt_lt
  have hsign : (reading.toInt : Rat) / 2 < 0 ↔ reading.toInt < 0 := by
    rw [div_lt_iff₀ (by norm_num), zero_mul]
    exact Int.cast_lt_zero
  obtain ⟨whole, htruncate, hbelow⟩ : ∃ whole, tilt.truncate? = some whole ∧
      ∀ a : Int, a < whole ↔
        if reading.toInt < 0 then 2 * a < reading.toInt else 2 * a + 2 ≤ reading.toInt := by
    rw [Number.truncate?, htilt, Option.map_some, Number.towardsZero]
    simp only [hsign]
    by_cases hneg : reading.toInt < 0
    · simp only [hneg, if_true]
      exact ⟨_, rfl, lt_ceil_half reading.toInt⟩
    · simp only [hneg, if_false]
      exact ⟨_, rfl, lt_floor_half reading.toInt⟩
  have hmin := (hbelow (-2 ^ 31 - 1)).mpr (by split <;> omega)
  have hmax : ¬2 ^ 31 - 1 < whole := fun hlt => by
    have hover := (hbelow (2 ^ 31 - 1)).mp hlt
    split at hover <;> omega
  have hrange : -2 ^ 31 ≤ whole ∧ whole < 2 ^ 31 := by omega
  rw [toInt32, htruncate]
  simp only [hrange, and_self, if_true]
  rw [Int32.toInt_ofInt_of_le (by omega) (by omega)]
  exact hbelow a

/-- The comparison of the handler, in half degrees. -/
theorem descends_iff {motor : MotorState} {reading : Int32}
    (htilt : HalfDegrees motor.currentTilt reading) (arg : Int32) :
    Descends motor arg ↔ BelowTruncated reading arg := by
  rw [Descends, Int32.lt_iff_toInt_lt]
  exact lt_toInt32_half htilt arg.toInt

/-! ## The packets of a request -/

/-- The angle of a `SET_TILT` packet that was sent. -/
def sentTilt : UsbCall → Option Rat
  | .bulkOut packet _ result =>
      if packet.cmd = cmdSetTilt ∧ result.rc = 0 then
        some ((packet.arg2.toInt32.toInt : Rat) / 2)
      else none
  | _ => none

/-- The angles that the sessions of a request sent, first one first. -/
def sentTilts (sessions : List Session) : List Rat :=
  sessions.flatMap fun session => session.calls.filterMap sentTilt

/-- When the last angle sent is below the tilt, the one sent before it is zero. -/
def ResetsFirst (tilt : Double) (angles : List Rat) : Prop :=
  ∀ before angle, tilt.value? = some before → angles.getLast? = some angle →
    angle < before → angles.dropLast.getLast? = some 0

/-- The device is opened and the packet is sent. -/
def PacketSent (answers : TiltAnswers) : Prop :=
  (motorOpenDevice answers.opening).opened = true ∧ answers.out.rc = 0

instance (answers : TiltAnswers) : Decidable (PacketSent answers) :=
  inferInstanceAs (Decidable (_ ∧ _))

theorem sentTilt_noTransfer {calls : List UsbCall} (hcalls : NoTransfer calls) :
    calls.filterMap sentTilt = [] := by
  rw [List.filterMap_eq_nil_iff]
  intro call hcall
  have hnone := hcalls call hcall
  cases call with
  | bulkOut packet length result => simp [isTransfer] at hnone
  | _ => rfl

theorem sentTilt_tiltCmd (tag : UInt32) (arg : Int32) (length : Nat) (result : Xfer) :
    sentTilt (.bulkOut (tiltCmd tag (ofInt32 (clampArg arg))) length result) =
      if result.rc = 0 then some ((clampArg arg).toInt : Rat) else none := by
  have hcmd : (tiltCmd tag (ofInt32 (clampArg arg))).cmd = cmdSetTilt := rfl
  simp only [sentTilt, hcmd, true_and, tiltCmd_arg2]
  push_cast
  rw [mul_div_cancel_left₀ _ (by norm_num)]

theorem sentTilt_accelCmd (tag : UInt32) (length : Nat) (result : Xfer) :
    sentTilt (.bulkOut (accelCmd tag) length result) = none := by
  have hother : (accelCmd tag).cmd ≠ cmdSetTilt := by
    change cmdGetAccel ≠ cmdSetTilt
    decide
  simp [sentTilt, hother]

theorem sentTilt_bulkIn (result : Xfer) : sentTilt (.bulkIn result) = none :=
  rfl

/-- A call of `k4w_motor_set_tilt` sends at most its own packet. -/
theorem sentTilts_k4wMotorSetTilt (motor : MotorState) (arg : Int32) (answers : TiltAnswers) :
    sentTilts [(k4wMotorSetTilt motor (ofInt32 arg) answers).session] =
      if PacketSent answers then [((clampArg arg).toInt : Rat)] else [] := by
  rw [sentTilts, List.flatMap_singleton]
  cases hopened : (motorOpenDevice answers.opening).opened with
  | false =>
      rw [(@k4wMotorSetTilt_unopened motor _ answers hopened).2,
        sentTilt_noTransfer (noTransfer_motorOpenDevice answers.opening), if_neg]
      simp [PacketSent, hopened]
  | true =>
      simp only [k4wMotorSetTilt, hopened, Bool.not_true, Bool.false_eq_true, if_false,
        Session.extend, List.filterMap_append, clampAngle_ofInt32,
        sentTilt_noTransfer (noTransfer_motorOpenDevice answers.opening),
        sentTilt_noTransfer noTransfer_motorCloseDevice, List.filterMap_cons, sentTilt_tiltCmd,
        sentTilt_accelCmd, sentTilt_bulkIn, PacketSent, true_and]
      by_cases hsent : answers.out.rc = 0
      · simp [hsent]
      · simp [hsent]

/-- The angles of a `TILT` request: that of the reset, and the clamped argument. -/
theorem sentTilts_processTilt (state : State) (status : Status) (arg : Int32)
    (answers : Answers) :
    sentTilts (processTilt state status arg answers).sessions =
      (if Descends state.motor arg ∧ PacketSent answers.reset then [(0 : Rat)] else []) ++
        if PacketSent answers.tilt then [((clampArg arg).toInt : Rat)] else [] := by
  have hpaused : (audioPause state).motor = state.motor := rfl
  have hzero : ((clampArg 0).toInt : Rat) = 0 := by
    have hclamp : (clampArg 0).toInt = 0 := by decide
    rw [hclamp, Int.cast_zero]
  have happend : ∀ front back : List Session,
      sentTilts (front ++ back) = sentTilts front ++ sentTilts back := by
    simp [sentTilts]
  simp only [processTilt, happend, sentTilts_k4wMotorSetTilt, hpaused]
  congr 1
  by_cases hdescends : Descends state.motor arg
  · simp only [resetTilt, hdescends, if_true, true_and, sentTilts_k4wMotorSetTilt, hzero]
  · simp [resetTilt, hdescends, sentTilts]

/-! ## The exact condition -/

/--
With the argument sent, an angle below the tilt is the target of a request that
compared below the truncated tilt and whose reset was sent.  With nothing but
the reset sent, the tilt was not above zero.
-/
def ResetsInTime (reading arg : Int32) (answers : Answers) : Prop :=
  if PacketSent answers.tilt then
    2 * (clampArg arg).toInt < reading.toInt →
      BelowTruncated reading arg ∧ PacketSent answers.reset
  else BelowTruncated reading arg ∧ PacketSent answers.reset → reading.toInt ≤ 0

instance (reading arg : Int32) : Decidable (BelowTruncated reading arg) := by
  unfold BelowTruncated
  infer_instance

instance (reading arg : Int32) (answers : Answers) :
    Decidable (ResetsInTime reading arg answers) := by
  unfold ResetsInTime
  infer_instance

section Angles

variable {tilt : Double} {reading : Int32} (htilt : HalfDegrees tilt reading)

theorem resetsFirst_nil (tilt : Double) : ResetsFirst tilt [] := by
  intro before angle _ hangle
  cases hangle

include htilt

/-- One angle must not be below the tilt. -/
theorem resetsFirst_singleton (n : Int) :
    ResetsFirst tilt [(n : Rat)] ↔ ¬2 * n < reading.toInt := by
  have hbelow : (n : Rat) < (reading.toInt : Rat) / 2 ↔ 2 * n < reading.toInt := by
    rw [lt_div_iff₀ (by norm_num), mul_comm]
    exact_mod_cast Iff.rfl
  constructor
  · intro hresets hlt
    have hbefore := hresets _ _ htilt rfl (hbelow.mpr hlt)
    cases hbefore
  · intro hnot before angle hvalue hangle hlt
    obtain rfl := Option.some.inj (htilt.symm.trans hvalue)
    obtain rfl := Option.some.inj hangle
    exact absurd (hbelow.mp hlt) hnot

omit htilt

/-- After a zero any angle may follow. -/
theorem resetsFirst_zero (tilt : Double) (angle : Rat) : ResetsFirst tilt [0, angle] :=
  fun _ _ _ _ _ => rfl

end Angles

/-- Exactly when a `TILT` request resets before it descends. -/
theorem resetsFirst_iff {state : State} {reading : Int32}
    (htilt : HalfDegrees state.motor.currentTilt reading) (status : Status) (arg : Int32)
    (answers : Answers) :
    ResetsFirst state.motor.currentTilt
        (sentTilts (processTilt state status arg answers).sessions) ↔
      ResetsInTime reading arg answers := by
  have hdescends := descends_iff htilt arg
  rw [sentTilts_processTilt]
  by_cases hreset : BelowTruncated reading arg ∧ PacketSent answers.reset
  · have hmet : Descends state.motor arg ∧ PacketSent answers.reset :=
      ⟨hdescends.mpr hreset.1, hreset.2⟩
    rw [if_pos hmet]
    by_cases hsent : PacketSent answers.tilt
    · rw [if_pos hsent, List.singleton_append]
      exact iff_of_true (resetsFirst_zero _ _) (by simp [ResetsInTime, hsent, hreset])
    · have hzero := resetsFirst_singleton htilt 0
      rw [Int.cast_zero, Int.mul_zero, Int.not_lt] at hzero
      rw [if_neg hsent, List.append_nil, hzero]
      simp [ResetsInTime, hsent, hreset]
  · have hnot : ¬(Descends state.motor arg ∧ PacketSent answers.reset) := fun hmet =>
      hreset ⟨hdescends.mp hmet.1, hmet.2⟩
    rw [if_neg hnot, List.nil_append]
    by_cases hsent : PacketSent answers.tilt
    · rw [if_pos hsent, resetsFirst_singleton htilt]
      simp [ResetsInTime, hsent, hreset]
    · rw [if_neg hsent]
      exact iff_of_true (resetsFirst_nil _) (by simp [ResetsInTime, hsent, hreset])

/-! ## The tilt that the daemon knows -/

/-- The last known tilt is a reading of the device, or the initial zero. -/
def KnowsTilt (motor : MotorState) : Prop :=
  ∃ reading, HalfDegrees motor.currentTilt reading

theorem halfDegrees_tiltReading (data : Nat → UInt8) :
    HalfDegrees (tiltReading data) (int32At data 28) :=
  tiltReading_value data

theorem halfDegrees_zero : HalfDegrees (ofInt32 0) 0 := by
  rw [HalfDegrees, ofInt32_eq]
  simp [Number.value?]

theorem KnowsTilt.k4wMotorSetTilt {motor : MotorState} (hknows : KnowsTilt motor)
    (angle : Double) (answers : TiltAnswers) :
    KnowsTilt (k4wMotorSetTilt motor angle answers).motor := by
  simp only [Motor.k4wMotorSetTilt]
  split
  · exact hknows
  · by_cases hcount : 32 ≤ answers.data.count (answers.accelOut.count 0)
    · exact ⟨_, by simpa [hcount] using halfDegrees_tiltReading answers.data.data⟩
    · simpa [KnowsTilt, hcount] using hknows

theorem KnowsTilt.k4wMotorSetLed {motor : MotorState} (hknows : KnowsTilt motor)
    (color : Int32) (answers : LedAnswers) :
    KnowsTilt (k4wMotorSetLed motor color answers).motor := by
  simp only [Motor.k4wMotorSetLed]
  split
  · exact hknows
  · exact hknows

theorem KnowsTilt.requestAccel {motor : MotorState} (hknows : KnowsTilt motor)
    (answers : GetAnswers) : KnowsTilt (requestAccel motor answers).motor := by
  simp only [Motor.requestAccel]
  split
  · exact hknows
  · split
    · exact hknows
    · split
      · exact hknows
      · exact hknows

theorem KnowsTilt.k4wMotorGetTilt {motor : MotorState} (hknows : KnowsTilt motor)
    (answers : GetAnswers) (angle : Double) :
    KnowsTilt (k4wMotorGetTilt motor answers angle).1.motor := by
  simp only [Motor.k4wMotorGetTilt]
  split
  · exact hknows.requestAccel answers
  · split
    · exact ⟨_, halfDegrees_tiltReading answers.data.data⟩
    · exact hknows.requestAccel answers

theorem KnowsTilt.resetTilt {motor : MotorState} (hknows : KnowsTilt motor) (arg : Int32)
    (answers : TiltAnswers) : KnowsTilt (resetTilt motor arg answers).1 := by
  unfold SocketHandle.resetTilt
  split
  · exact hknows.k4wMotorSetTilt _ answers
  · exact hknows

theorem KnowsTilt.processCommand {state : State} (hknows : KnowsTilt state.motor)
    (command : Command) (arg : Int32) (answers : Answers) (locals : Locals) :
    KnowsTilt (processCommand state command arg answers locals).state.motor := by
  have hpaused : KnowsTilt (audioPause state).motor := hknows
  cases command with
  | tilt => exact (hpaused.resetTilt arg answers.reset).k4wMotorSetTilt _ answers.tilt
  | led => exact hpaused.k4wMotorSetLed arg answers.led
  | accel =>
      have haccel := hpaused.requestAccel answers.accel
      rw [← k4wMotorGetAccel_called _ _ ⟨locals.ax, locals.ay, locals.az⟩] at haccel
      exact haccel
  | motorInfo => exact hpaused.k4wMotorGetTilt answers.info locals.tilt
  | status => exact hknows
  | other => exact hknows

/-! ## Runs of the daemon -/

/-- The argument of a whole `TILT` request to a daemon that is set up. -/
def Connection.tiltArg? (connection : Connection) : Option Int32 :=
  if connection.pointerSet then
    connection.received.bind fun bytes =>
      if bytes.length = 8 ∧ commandOf bytes = .tilt then some (argOf bytes) else none
  else none

/-- The daemon serves one connection after the other. -/
def serving (start : State) : Loop State Connection Handled where
  initial := start
  step := fun state connection =>
    let handled := serve state connection
    (handled.state.getD state, handled)

abbrev ServedConnection := Iteration State Connection Handled

/-- A `TILT` request descends from the tilt known before only right after 0 degrees. -/
def ResetsBeforeDescending (served : ServedConnection) : Prop :=
  ∀ arg, served.input.tiltArg? = some arg →
    ResetsFirst served.before.motor.currentTilt (sentTilts served.output.sessions)

/-- Every `TILT` request of a run resets before it descends. -/
def AllReset (run : List ServedConnection) : Prop :=
  ∀ served ∈ run, ResetsBeforeDescending served

/-- The condition for it, in terms of the reading, the argument, and the answers of libusb. -/
def MeetsReset (served : ServedConnection) : Prop :=
  ∀ arg reading, served.input.tiltArg? = some arg →
    HalfDegrees served.before.motor.currentTilt reading →
      ResetsInTime reading arg served.input.answers

theorem knowsTilt_next {start state : State} (hknows : KnowsTilt state.motor)
    (connection : Connection) : KnowsTilt ((serving start).next state connection).motor := by
  change KnowsTilt ((serve state connection).state.getD state).motor
  unfold serve
  split
  · cases connection.received with
    | none => exact hknows
    | some bytes =>
        by_cases hlength : bytes.length = 8
        · simp only [k4wSocketHandle, hlength, ne_eq, not_true, if_false]
          exact hknows.processCommand _ _ _ _
        · simp only [k4wSocketHandle, hlength, ne_eq, not_false_iff, if_true]
          exact hknows
  · exact hknows

/-- In every run the daemon knows a tilt. -/
theorem serving_knowsTilt {start : State} (hstart : start.motor = restingMotor)
    (connections : List Connection) : KnowsTilt ((serving start).state connections).motor := by
  refine @Loop.state_of_past _ _ _ (serving start) (fun _ state => KnowsTilt state.motor)
    ?_ ?_ connections
  · refine ⟨0, ?_⟩
    change HalfDegrees start.motor.currentTilt 0
    rw [hstart]
    exact halfDegrees_zero
  · exact fun connection hknows => knowsTilt_next hknows connection

/-- A `TILT` request is processed with its argument. -/
theorem serve_tilt {state : State} {connection : Connection} {arg : Int32}
    (harg : connection.tiltArg? = some arg) :
    let processed := processTilt state (initialStatus state) arg connection.answers
    (serve state connection).state = some processed.state ∧
      (serve state connection).sessions = processed.sessions := by
  unfold Connection.tiltArg? at harg
  split at harg
  case isTrue hpointer =>
      obtain ⟨bytes, hreceived, hbytes⟩ := Option.bind_eq_some_iff.mp harg
      split at hbytes
      case isTrue htilt =>
          cases hbytes
          simp [serve, hpointer, k4wSocketHandle, hreceived, htilt.1, htilt.2, processCommand]
      case isFalse => cases hbytes
  case isFalse => cases harg

/-- One request resets before it descends exactly when it meets the condition. -/
theorem resetsBeforeDescending_iterate {start state : State} (hknows : KnowsTilt state.motor)
    (connection : Connection) :
    ResetsBeforeDescending ((serving start).iterate state connection) ↔
      MeetsReset ((serving start).iterate state connection) := by
  obtain ⟨reading, htilt⟩ := hknows
  have houtput : ∀ arg, connection.tiltArg? = some arg →
      ((serving start).iterate state connection).output.sessions =
        (processTilt state (initialStatus state) arg connection.answers).sessions :=
    fun _ harg => (serve_tilt harg).2
  constructor
  · intro hresets arg other harg hother
    have hfirst := hresets arg harg
    rw [houtput arg harg] at hfirst
    exact (resetsFirst_iff hother (initialStatus state) arg connection.answers).mp hfirst
  · intro hmeets arg harg
    rw [houtput arg harg]
    exact (resetsFirst_iff htilt (initialStatus state) arg connection.answers).mpr
      (hmeets arg reading harg htilt)

/-- A tilt that is read after the motor has moved is the tilt known then. -/
theorem halfDegrees_processTilt {state : State} {status : Status} {arg : Int32}
    {answers : Answers} (hopened : (motorOpenDevice answers.tilt.opening).opened = true)
    (hcount : 32 ≤ answers.tilt.data.count (answers.tilt.accelOut.count 0)) :
    HalfDegrees (processTilt state status arg answers).state.motor.currentTilt
      (int32At answers.tilt.data.data 28) := by
  simp only [processTilt, k4wMotorSetTilt, hopened, hcount, audioResume, Bool.not_true,
    Bool.false_eq_true, if_false, if_true]
  exact halfDegrees_tiltReading answers.tilt.data.data

/-- A request with a whole number of degrees, and one reading in every data message. -/
def tiltRequest (degrees reading : UInt8) : Connection where
  pointerSet := true
  received := some [0, 0, 0, 0, degrees, 0, 0, 0]
  answers := answersOf true ⟨0, some 32, fun i => if i = 28 then reading else 0⟩
  locals := filledLocals 0

/-- The tilt after such a request. -/
theorem halfDegrees_tiltRequest (start state : State) (degrees reading : UInt8) {arg : Int32}
    (harg : (tiltRequest degrees reading).tiltArg? = some arg) :
    HalfDegrees ((serving start).next state (tiltRequest degrees reading)).motor.currentTilt
      (int32At (fun i => if i = 28 then reading else 0) 28) := by
  let answers := (tiltRequest degrees reading).answers
  have htilt := @halfDegrees_processTilt state (initialStatus state) arg answers rfl
    (show (32 : Int32) ≤ 32 by decide)
  change HalfDegrees
    ((serve state (tiltRequest degrees reading)).state.getD state).motor.currentTilt _
  rw [(serve_tilt harg).1]
  exact htilt

/-- The condition for a request with a known reading and argument. -/
theorem meetsReset_of_resetsInTime {served : ServedConnection} {arg reading : Int32}
    (harg : served.input.tiltArg? = some arg)
    (htilt : HalfDegrees served.before.motor.currentTilt reading)
    (hintime : ResetsInTime reading arg served.input.answers) : MeetsReset served := by
  intro otherArg otherReading hotherArg hotherTilt
  obtain rfl := Option.some.inj (harg.symm.trans hotherArg)
  obtain rfl := htilt.unique hotherTilt
  exact hintime

/--
In every run, every `TILT` request sends 0 degrees right before an angle below
the known tilt exactly when every `TILT` request meets the condition.
-/
theorem resetsBeforeDescending_iff_meetsReset (start : State)
    (hstart : start.motor = restingMotor) (connections : List Connection) :
    let run := (serving start).run connections
    AllReset run ↔ ∀ served ∈ run, MeetsReset served := by
  intro run
  apply forall₂_congr
  intro served hserved
  obtain ⟨past, connection, -, -, rfl⟩ := (serving start).mem_run_iff.mp hserved
  exact resetsBeforeDescending_iterate (serving_knowsTilt hstart past) connection

/-- From 0 degrees, up to 10, and down again to 4. -/
theorem resetsBeforeDescending_upAndDown :
    AllReset ((serving restingState).run [tiltRequest 10 20, tiltRequest 4 8]) := by
  refine (resetsBeforeDescending_iff_meetsReset restingState rfl _).mpr ?_
  have htilt := @halfDegrees_tiltRequest restingState restingState 10 20 10 rfl
  have hreading : int32At (fun i => if i = 28 then (20 : UInt8) else 0) 28 = 20 := by decide
  rw [hreading] at htilt
  intro served hserved
  rcases List.mem_cons.mp hserved with rfl | hserved
  · exact meetsReset_of_resetsInTime rfl halfDegrees_zero (by decide)
  · obtain rfl := List.mem_singleton.mp hserved
    exact meetsReset_of_resetsInTime rfl htilt (by decide)

/-- At 10.5 degrees, a request for 10 degrees descends without a reset. -/
theorem not_resetsBeforeDescending_halfDegree :
    ¬ ∀ (start : State), start.motor = restingMotor → ∀ (connections : List Connection),
      AllReset ((serving start).run connections) := by
  intro hall
  have htilt := @halfDegrees_tiltRequest restingState restingState 10 21 10 rfl
  have hreading : int32At (fun i => if i = 28 then (21 : UInt8) else 0) 28 = 21 := by decide
  rw [hreading] at htilt
  have hresets := hall restingState rfl [tiltRequest 10 21, tiltRequest 10 20] _
    (List.mem_cons_of_mem _ List.mem_cons_self)
  have hmeets := (resetsBeforeDescending_iterate ⟨21, htilt⟩ (tiltRequest 10 20)).mp hresets
  have hnot : ¬ResetsInTime 21 10 (tiltRequest 10 20).answers := by decide
  exact hnot (hmeets 10 21 rfl htilt)

end K4W.Daemon.SocketHandle
