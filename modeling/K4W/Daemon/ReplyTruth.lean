import K4W.Daemon.SocketHandle

/-!
# Failures and the ok field

A request fails when the motor device is not opened, when a command packet is
not sent, or when the response it reports on is not read.  The motor functions
return an error for some of these failures only, and two commands do not look
at what they return.
-/

namespace K4W.Daemon.SocketHandle

open K4W.Motor

/-- The command whose response the request reports on. -/
def reportedCmd : Command → UInt32
  | .led => cmdSetLed
  | _ => cmdGetAccel

/-- The device was not opened, or a packet was not sent. -/
def NotSent (session : Session) : Prop :=
  session.opened = false ∨ OutFailed session.calls

/-- The response to the command was read with an error. -/
def ReadFailed (cmd : UInt32) (session : Session) : Prop :=
  ∃ result, responseTo cmd session.calls = some result ∧ result.rc ≠ 0

/-- One of the failures that a reply must tell, in the sessions of a request. -/
def Failed (command : Command) (sessions : List Session) : Prop :=
  (∃ session ∈ sessions, NotSent session) ∨
    ∃ session, sessions.getLast? = some session ∧ ReadFailed (reportedCmd command) session

theorem failed_singleton {command : Command} {session : Session} :
    Failed command [session] ↔ NotSent session ∨ ReadFailed (reportedCmd command) session := by
  simp [Failed]

theorem failed_pair {command : Command} {first last : Session} :
    Failed command [first, last] ↔ NotSent first ∨ Failed command [last] := by
  simp [Failed, or_assoc]

/-! ## Failures of the motor functions -/

/-- Both packets of a tilt command are sent. -/
def TiltSent (answers : TiltAnswers) : Prop :=
  (motorOpenDevice answers.opening).opened = true ∧ answers.out.rc = 0 ∧
    answers.accelOut.rc = 0

/-- The LED packet is sent and its reply is read. -/
def LedDone (answers : LedAnswers) : Prop :=
  (motorOpenDevice answers.opening).opened = true ∧ answers.out.rc = 0 ∧
    answers.reply.rc = 0

theorem notSent_k4wMotorSetTilt {motor : MotorState} {angle : Double} {answers : TiltAnswers} :
    NotSent (k4wMotorSetTilt motor angle answers).session ↔ ¬TiltSent answers := by
  cases hopened : (motorOpenDevice answers.opening).opened with
  | false =>
      obtain ⟨-, hsession⟩ := @k4wMotorSetTilt_unopened motor angle answers hopened
      rw [hsession]
      simp [NotSent, TiltSent, hopened]
  | true =>
      obtain ⟨-, hopen, hout, -⟩ := @k4wMotorSetTilt_opened motor angle answers hopened
      rw [NotSent, hopen, hout]
      simp [TiltSent, hopened, imp_iff_not_or]

theorem failed_k4wMotorSetTilt {motor : MotorState} {angle : Double} {answers : TiltAnswers} :
    Failed .tilt [(k4wMotorSetTilt motor angle answers).session] ↔
      ¬(TiltSent answers ∧ answers.data.rc = 0) := by
  rw [failed_singleton, notSent_k4wMotorSetTilt]
  cases hopened : (motorOpenDevice answers.opening).opened with
  | false => simp [TiltSent, hopened]
  | true =>
      obtain ⟨-, -, -, hread⟩ := @k4wMotorSetTilt_opened motor angle answers hopened
      simp [ReadFailed, reportedCmd, hread, imp_iff_not_or]

theorem failed_k4wMotorSetLed {motor : MotorState} {color : Int32} {answers : LedAnswers} :
    Failed .led [(k4wMotorSetLed motor color answers).session] ↔ ¬LedDone answers := by
  rw [failed_singleton]
  cases hopened : (motorOpenDevice answers.opening).opened with
  | false =>
      obtain ⟨-, hsession⟩ := @k4wMotorSetLed_unopened motor color answers hopened
      rw [hsession]
      simp [NotSent, LedDone, hopened]
  | true =>
      obtain ⟨-, hopen, hout, hread⟩ := @k4wMotorSetLed_opened motor color answers hopened
      rw [NotSent, hopen, hout]
      simp [ReadFailed, reportedCmd, hread, LedDone, hopened, imp_iff_not_or]

theorem failed_requestAccel {motor : MotorState} {answers : GetAnswers} {command : Command}
    (hcommand : reportedCmd command = cmdGetAccel) :
    Failed command [(requestAccel motor answers).session] ↔ ¬answers.Succeeds := by
  rw [failed_singleton, hcommand]
  cases hopened : (motorOpenDevice answers.opening).opened with
  | false =>
      rw [@requestAccel_unopened motor answers hopened]
      simp [NotSent, GetAnswers.Succeeds, hopened]
  | true =>
      obtain ⟨hopen, hout, hread⟩ := @requestAccel_opened motor answers hopened
      rw [NotSent, hopen, hout]
      by_cases hsent : answers.out.rc = 0
      · simp [ReadFailed, hread, GetAnswers.Succeeds, hopened, hsent]
      · simp [GetAnswers.Succeeds, hsent]

/-! ## The reply -/

/-- The reply of a request with a failure has `ok = false`. -/
def TellsFailure (command : Command) (processed : Processed) : Prop :=
  Failed command processed.sessions → processed.status.ok = false

/--
No failure happens that the reply would not tell.  A tilt or LED request tells
only that its own device was not opened, and `MOTOR_INFO` only that the motor
was busy before.
-/
def Truthful (motor : MotorState) (arg : Int32) (answers : Answers) : Command → Prop
  | .tilt =>
      (motorOpenDevice answers.tilt.opening).opened = false ∨
        (TiltSent answers.tilt ∧ answers.tilt.data.rc = 0) ∧
          (Descends motor arg → TiltSent answers.reset)
  | .led => (motorOpenDevice answers.led.opening).opened = false ∨ LedDone answers.led
  | .accel => answers.accel.Succeeds
  | .motorInfo => motor.busy ≠ 0 ∨ answers.info.Succeeds
  | .status | .other => True

/-- The result of a tilt command says only whether its device was opened. -/
theorem k4wMotorSetTilt_rc {motor : MotorState} {angle : Double} {answers : TiltAnswers} :
    (k4wMotorSetTilt motor angle answers).rc = 0 ↔
      (motorOpenDevice answers.opening).opened = true := by
  cases hopened : (motorOpenDevice answers.opening).opened with
  | false => simp [(@k4wMotorSetTilt_unopened motor angle answers hopened).1]
  | true => simp [(@k4wMotorSetTilt_opened motor angle answers hopened).1]

theorem k4wMotorSetLed_rc {motor : MotorState} {color : Int32} {answers : LedAnswers} :
    (k4wMotorSetLed motor color answers).rc = 0 ↔
      (motorOpenDevice answers.opening).opened = true := by
  cases hopened : (motorOpenDevice answers.opening).opened with
  | false => simp [(@k4wMotorSetLed_unopened motor color answers hopened).1]
  | true => simp [(@k4wMotorSetLed_opened motor color answers hopened).1]

theorem failed_processTilt {state : State} {status : Status} {arg : Int32}
    {answers : Answers} :
    Failed .tilt (processTilt state status arg answers).sessions ↔
      ¬((TiltSent answers.tilt ∧ answers.tilt.data.rc = 0) ∧
        (Descends state.motor arg → TiltSent answers.reset)) := by
  have hpaused : (audioPause state).motor = state.motor := rfl
  by_cases hdescends : Descends state.motor arg
  · simp only [processTilt, resetTilt, hpaused, if_pos hdescends, List.singleton_append]
    rw [failed_pair, notSent_k4wMotorSetTilt, failed_k4wMotorSetTilt]
    constructor
    · rintro (hreset | htilt) ⟨hdone, hsent⟩
      · exact hreset (hsent hdescends)
      · exact htilt hdone
    · intro hfailed
      by_cases hdone : TiltSent answers.tilt ∧ answers.tilt.data.rc = 0
      · exact .inl fun hsent => hfailed ⟨hdone, fun _ => hsent⟩
      · exact .inr hdone
  · simp only [processTilt, resetTilt, hpaused, if_neg hdescends, List.nil_append]
    rw [failed_k4wMotorSetTilt]
    simp [hdescends]

theorem tellsFailure_iff_truthful (state : State) (command : Command) (arg : Int32)
    (answers : Answers) (locals : Locals) :
    TellsFailure command (processCommand state command arg answers locals) ↔
      Truthful state.motor arg answers command := by
  unfold TellsFailure
  cases command with
  | tilt =>
      have hok : (processTilt state (initialStatus state) arg answers).status.ok = false ↔
          (motorOpenDevice answers.tilt.opening).opened = false := by
        simp only [processTilt, decide_eq_false_iff_not, k4wMotorSetTilt_rc,
          Bool.not_eq_true]
      simp only [processCommand, failed_processTilt, hok, Truthful]
      exact or_iff_not_imp_right.symm
  | led =>
      have hok : (processLed state (initialStatus state) arg answers).status.ok = false ↔
          (motorOpenDevice answers.led.opening).opened = false := by
        simp only [processLed, decide_eq_false_iff_not, k4wMotorSetLed_rc, Bool.not_eq_true]
      have hfailed : Failed .led (processLed state (initialStatus state) arg answers).sessions ↔
          ¬LedDone answers.led := failed_k4wMotorSetLed
      simp only [processCommand, hfailed, hok, Truthful]
      exact or_iff_not_imp_right.symm
  | accel =>
      have hok : (processAccel state (initialStatus state) answers locals).status.ok = true := by
        simp only [processAccel]
        split <;> rfl
      have hfailed :
          Failed .accel (processAccel state (initialStatus state) answers locals).sessions ↔
            ¬answers.accel.Succeeds := by
        simp only [processAccel, k4wMotorGetAccel_called]
        exact failed_requestAccel rfl
      simp only [processCommand, hfailed, hok, Truthful]
      simp
  | motorInfo =>
      obtain ⟨hsession, hbusy⟩ :=
        k4wMotorGetTilt_called (audioPause state).motor answers.info locals.tilt
      have hok :
          (processMotorInfo state (initialStatus state) answers locals).status.ok = false ↔
            state.motor.busy ≠ 0 := by
        simp only [processMotorInfo, decide_eq_false_iff_not, hbusy]
        exact Iff.rfl
      have hfailed : Failed .motorInfo
          (processMotorInfo state (initialStatus state) answers locals).sessions ↔
            ¬answers.info.Succeeds := by
        simp only [processMotorInfo, hsession]
        exact failed_requestAccel rfl
      simp only [processCommand, hfailed, hok, Truthful]
      exact or_iff_not_imp_right.symm
  | status | other =>
      have hnone : ∀ command, ¬Failed command [] := by simp [Failed]
      exact ⟨fun _ => trivial, fun _ hfailed => absurd hfailed (hnone _)⟩

/--
A whole request gets a reply with `ok = false` for every failure exactly when no
failure happens that the reply would not tell.
-/
theorem sent_tellsFailure_iff_truthful (state : State) (bytes : List UInt8)
    (answers : Answers) (locals : Locals) (hlength : bytes.length = 8) :
    let handled := k4wSocketHandle (some state) (some bytes) answers locals
    (Failed (commandOf bytes) handled.sessions →
        ∀ status ∈ handled.sent, status.ok = false) ↔
      Truthful state.motor (argOf bytes) answers (commandOf bytes) := by
  obtain ⟨hsent, hsessions⟩ := @k4wSocketHandle_sent state bytes hlength answers locals
  simp only [hsent, hsessions, List.mem_singleton, forall_eq]
  exact tellsFailure_iff_truthful state (commandOf bytes) (argOf bytes) answers locals

/-- An LED request without a device fails, and is answered with `ok = false`. -/
theorem sent_tellsFailure_ledWithoutDevice :
    let handled := k4wSocketHandle (some restingState) (some (request 1))
      (answersOf false fullXfer) (filledLocals 0)
    Failed .led handled.sessions ∧ ∀ status ∈ handled.sent, status.ok = false := by
  intro handled
  have htells := (sent_tellsFailure_iff_truthful restingState (request 1)
    (answersOf false fullXfer) (filledLocals 0) rfl).mpr (.inl rfl)
  have hfailed : Failed .led handled.sessions :=
    .inl ⟨motorOpenDevice (openAnswers false), List.mem_singleton.mpr rfl, .inl rfl⟩
  exact ⟨hfailed, htells hfailed⟩

/-- An accelerometer request without a device is answered with `ok = true`. -/
theorem not_sent_tellsFailure_accelWithoutDevice :
    ¬ ∀ (state : State) (bytes : List UInt8) (answers : Answers) (locals : Locals),
      bytes.length = 8 →
      let handled := k4wSocketHandle (some state) (some bytes) answers locals
      Failed (commandOf bytes) handled.sessions →
        ∀ status ∈ handled.sent, status.ok = false := by
  intro hall
  let answers := answersOf false fullXfer
  have hfailed : Failed .accel (k4wSocketHandle (some restingState) (some (request 3)) answers
      (filledLocals 0)).sessions :=
    .inl ⟨motorOpenDevice (openAnswers false), List.mem_singleton.mpr rfl, .inl rfl⟩
  have htold := hall restingState (request 3) answers (filledLocals 0) rfl hfailed
  exact absurd (htold _ (List.mem_singleton.mpr rfl)) (by decide)

end K4W.Daemon.SocketHandle
