import K4W.Daemon.SocketHandle

/-!
# Uninitialised data in replies

The handler passes its uninitialised locals to the motor getters, which write
them on some paths only.  The reply is independent of what the locals contained
exactly when the getter of the request writes them, or the handler discards them.
-/

namespace K4W.Daemon.SocketHandle

open K4W.Library.Binary
open K4W.Motor

/--
The getter of the command stores to the locals that the reply is built from.
An `ACCEL` reply without accelerations does not use them.
-/
def WritesLocals (answers : Answers) : Command → Prop
  | .motorInfo => answers.info.Succeeds
  | .accel => answers.accel.Succeeds → 28 ≤ answers.accel.count
  | _ => True

instance (answers : Answers) : (command : Command) → Decidable (WritesLocals answers command)
  | .motorInfo => inferInstanceAs (Decidable answers.info.Succeeds)
  | .accel => inferInstanceAs (Decidable (_ → _))
  | .tilt | .led | .status | .other => .isTrue trivial

/-! ## The getters -/

theorem k4wMotorGetTilt_writes {motor : MotorState} {answers : GetAnswers}
    (hsucceeds : answers.Succeeds) (angle other : Double) :
    k4wMotorGetTilt motor answers angle = k4wMotorGetTilt motor answers other := by
  have hrc := (requestAccel_rc motor answers).mpr hsucceeds
  simp [k4wMotorGetTilt, hrc]

theorem k4wMotorGetTilt_keeps {motor : MotorState} {answers : GetAnswers}
    (hfails : ¬answers.Succeeds) (angle : Double) :
    k4wMotorGetTilt motor answers angle = (requestAccel motor answers, angle) := by
  have hrc : (requestAccel motor answers).rc ≠ 0 :=
    fun hzero => hfails ((requestAccel_rc motor answers).mp hzero)
  simp [k4wMotorGetTilt, hrc]

theorem k4wMotorGetAccel_writes {motor : MotorState} {answers : GetAnswers}
    (hsucceeds : answers.Succeeds) (hcount : 28 ≤ answers.count) (accel other : Accel) :
    k4wMotorGetAccel motor answers accel = k4wMotorGetAccel motor answers other := by
  have hrc := (requestAccel_rc motor answers).mpr hsucceeds
  simp [k4wMotorGetAccel, hrc, hcount]

theorem k4wMotorGetAccel_keeps {motor : MotorState} {answers : GetAnswers}
    (hkeeps : ¬(answers.Succeeds ∧ 28 ≤ answers.count)) (accel : Accel) :
    k4wMotorGetAccel motor answers accel = (requestAccel motor answers, accel) := by
  unfold k4wMotorGetAccel
  dsimp only
  split
  case isTrue => rfl
  case isFalse hrc =>
      have hsucceeds := (requestAccel_rc motor answers).mp (not_not.mp hrc)
      rw [if_neg fun hcount => hkeeps ⟨hsucceeds, hcount⟩]

/-! ## The reply -/

theorem processMotorInfo_status {state : State} {status : Status} {answers : Answers}
    (hsucceeds : answers.info.Succeeds) (locals other : Locals) :
    processMotorInfo state status answers locals =
      processMotorInfo state status answers other := by
  have hwrites := @k4wMotorGetTilt_writes (audioPause state).motor _ hsucceeds
    locals.tilt other.tilt
  simp only [processMotorInfo, hwrites]

theorem processAccel_status {state : State} {status : Status} {answers : Answers}
    (hwritten : answers.accel.Succeeds → 28 ≤ answers.accel.count) (locals other : Locals) :
    processAccel state status answers locals = processAccel state status answers other := by
  by_cases hsucceeds : answers.accel.Succeeds
  · have hwrites := @k4wMotorGetAccel_writes (audioPause state).motor _ hsucceeds
      (hwritten hsucceeds) ⟨locals.ax, locals.ay, locals.az⟩ ⟨other.ax, other.ay, other.az⟩
    simp only [processAccel, hwrites]
  · have hkeeps : ¬(answers.accel.Succeeds ∧ 28 ≤ answers.accel.count) :=
      fun hboth => hsucceeds hboth.1
    have hrc : (requestAccel (audioPause state).motor answers.accel).rc ≠ 0 :=
      fun hzero => hsucceeds ((requestAccel_rc _ _).mp hzero)
    simp [processAccel, k4wMotorGetAccel_keeps hkeeps, hrc]

/-- The reply, the state, and the sessions do not depend on the locals. -/
theorem processCommand_of_writesLocals {state : State} {command : Command} {arg : Int32}
    {answers : Answers} (hwrites : WritesLocals answers command) (locals other : Locals) :
    processCommand state command arg answers locals =
      processCommand state command arg answers other := by
  cases command with
  | motorInfo => exact processMotorInfo_status hwrites locals other
  | accel => exact processAccel_status hwrites locals other
  | tilt | led | status | other => rfl

theorem convert_zero_ne_one :
    (ofInt32 0).convert binary32 ≠ (ofInt32 1).convert binary32 := by
  intro heq
  have hzero : ((ofInt32 0).convert binary32).value? = some (((0 : Int32).toInt : Int) : Rat) :=
    convert_ofInt32_value (by decide)
  have hone : ((ofInt32 1).convert binary32).value? = some (((1 : Int32).toInt : Int) : Rat) :=
    convert_ofInt32_value (by decide)
  rw [heq, hone] at hzero
  exact absurd (Option.some.inj hzero) (by decide)

/-- Where the locals are not written, two contents of them give two replies. -/
theorem processCommand_of_not_writesLocals {state : State} {command : Command} {arg : Int32}
    {answers : Answers} (hkept : ¬WritesLocals answers command) :
    (processCommand state command arg answers (filledLocals 0)).status ≠
      (processCommand state command arg answers (filledLocals 1)).status := by
  intro heq
  cases command with
  | motorInfo =>
      have htilt := congrArg Status.tiltDeg heq
      have hkeeps : ¬answers.info.Succeeds := hkept
      simp only [processCommand, processMotorInfo, k4wMotorGetTilt_keeps hkeeps] at htilt
      exact convert_zero_ne_one htilt
  | accel =>
      have haccel := congrArg Status.accelX heq
      have hshort : answers.accel.Succeeds ∧ ¬28 ≤ answers.accel.count :=
        Classical.not_imp.mp hkept
      have hkeeps : ¬(answers.accel.Succeeds ∧ 28 ≤ answers.accel.count) :=
        fun hboth => hshort.2 hboth.2
      have hrc : (requestAccel (audioPause state).motor answers.accel).rc = 0 :=
        (requestAccel_rc _ _).mpr hshort.1
      simp only [processCommand, processAccel, k4wMotorGetAccel_keeps hkeeps, hrc, if_true]
        at haccel
      exact convert_zero_ne_one haccel
  | tilt | led | status | other => exact hkept trivial

/--
Two runs that differ in the contents of the locals send the same reply exactly
when the getter of the request writes the locals that its reply uses.
-/
theorem sent_independent_iff_writesLocals (state : State) (bytes : List UInt8)
    (answers : Answers) (hlength : bytes.length = 8) :
    (∀ locals other : Locals,
        (k4wSocketHandle (some state) (some bytes) answers locals).sent =
          (k4wSocketHandle (some state) (some bytes) answers other).sent) ↔
      WritesLocals answers (commandOf bytes) := by
  have hsent := fun locals => (@k4wSocketHandle_sent state bytes hlength answers locals).1
  constructor
  · intro hsame
    by_contra hkept
    have heq := hsame (filledLocals 0) (filledLocals 1)
    rw [hsent, hsent] at heq
    exact processCommand_of_not_writesLocals hkept (List.singleton_inj.mp heq)
  · intro hwrites locals other
    rw [hsent, hsent, processCommand_of_writesLocals hwrites locals other]

/-- With a full data message, two contents of the locals give one `MOTOR_INFO` reply. -/
theorem sent_independent_fullReading :
    (k4wSocketHandle (some restingState) (some (request 4)) (answersOf true fullXfer)
        (filledLocals 0)).sent =
      (k4wSocketHandle (some restingState) (some (request 4)) (answersOf true fullXfer)
        (filledLocals 1)).sent :=
  (sent_independent_iff_writesLocals restingState (request 4) (answersOf true fullXfer)
    rfl).mpr (by decide) (filledLocals 0) (filledLocals 1)

/-- Without a device, a `MOTOR_INFO` reply carries what `tilt` contained. -/
theorem not_sent_independent_withoutDevice :
    ¬ ∀ (state : State) (bytes : List UInt8) (answers : Answers), bytes.length = 8 →
      ∀ locals other : Locals,
        (k4wSocketHandle (some state) (some bytes) answers locals).sent =
          (k4wSocketHandle (some state) (some bytes) answers other).sent := by
  intro hall
  let answers := answersOf false fullXfer
  have heq := hall restingState (request 4) answers rfl (filledLocals 0) (filledLocals 1)
  have hsent := fun locals => (@k4wSocketHandle_sent restingState (request 4) rfl answers locals).1
  have hkept : ¬WritesLocals answers (commandOf (request 4)) := by decide
  rw [hsent, hsent] at heq
  exact processCommand_of_not_writesLocals hkept (List.singleton_inj.mp heq)

end K4W.Daemon.SocketHandle
