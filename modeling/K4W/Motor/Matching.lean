import K4W.Library.Machine
import K4W.Motor.Control

/-!
# Requests and their answers

The device answers into a queue that outlives the sessions, and a read takes
its head or times out.  The motor functions count their reads, so an answer
that comes late is taken for the answer of a later request.
-/

namespace K4W.Motor

open K4W.Library

/-! ## The device -/

/-- The content of a data message. -/
structure Reading where
  bytes : List UInt8
  long : 32 ≤ bytes.length
  fits : bytes.length ≤ 512

structure Reply where
  bytes : List UInt8
  size : bytes.length = 12

/-- A message, with the number of the call whose packet it answers. -/
inductive Message where
  | reading (call : Nat) (content : Reading)
  | reply (call : Nat) (content : Reply)

def Message.call : Message → Nat
  | .reading call _ => call
  | .reply call _ => call

def Message.bytes : Message → List UInt8
  | .reading _ content => content.bytes
  | .reply _ content => content.bytes

def Message.isReading : Message → Bool
  | .reading _ _ => true
  | .reply _ _ => false

/-- The buffer that the message is read into. -/
def Message.data (message : Message) : Nat → UInt8 :=
  fun i => message.bytes.getD i 0

/-- A bulk IN read: what it takes from the queue, and the queue after it. -/
def bulkRead (late : Bool) (fifo : List Message) : Option Message × List Message :=
  if late then (none, fifo) else (fifo.head?, fifo.tail)

/-- What libusb reports of a read; without a message it has timed out. -/
def readAnswer : Option Message → Xfer
  | none => { rc := -7, transferred := some 0, data := fun _ => 0 }
  | some message =>
      { rc := 0
        transferred := some (Int32.ofNat message.bytes.length)
        data := message.data }

def outAnswer (length : Int32) : Xfer where
  rc := 0
  transferred := some length
  data := fun _ => 0

/-! ## Calls of the motor functions -/

/-- A call with what libusb, the device, and the clock contribute to it. -/
inductive MotorCall where
  | setLed (color : Int32) (opening : OpenAnswers) (reply : Reply) (replyLate : Bool)
  | setTilt (angle : Double) (opening : OpenAnswers) (reply : Reply) (reading : Reading)
      (trailing : Reply) (replyLate dataLate trailingLate : Bool)
  | getTilt (opening : OpenAnswers) (reading : Reading) (trailing : Reply)
      (dataLate trailingLate : Bool) (angle : Double)
  | getAccel (opening : OpenAnswers) (reading : Reading) (trailing : Reply)
      (dataLate trailingLate : Bool) (accel : Accel)

def MotorCall.opening : MotorCall → OpenAnswers
  | .setLed _ opening _ _ => opening
  | .setTilt _ opening _ _ _ _ _ _ => opening
  | .getTilt opening _ _ _ _ _ => opening
  | .getAccel opening _ _ _ _ _ => opening

def MotorCall.Opened (call : MotorCall) : Prop :=
  (motorOpenDevice call.opening).opened = true

instance (call : MotorCall) : Decidable call.Opened :=
  inferInstanceAs (Decidable (_ = _))

/-- A value that a call has stored from a message it received. -/
structure Store where
  call : Nat
  message : Message

/-- The statics, the queue of the device, the number of calls made, and what they stored. -/
structure Line where
  motor : MotorState
  fifo : List Message
  calls : Nat
  stored : List Store

def note (call : Nat) : Option Message → List Store
  | none => []
  | some message => [⟨call, message⟩]

/-- The reads of a getter. -/
structure Exchange where
  answers : GetAnswers
  received : Option Message
  fifo : List Message

/-- The exchange of a getter, with the messages of its own packet already in the queue. -/
def exchange (opening : OpenAnswers) (fifo : List Message) (dataLate trailingLate : Bool) :
    Exchange :=
  let data := bulkRead dataLate fifo
  let trailing := bulkRead trailingLate data.2
  { answers := {
      opening := opening
      out := outAnswer 16
      data := readAnswer data.1
      trailing := readAnswer trailing.1 }
    received := data.1
    -- without a data message the getter returns before the trailing read
    fifo := if data.1.isNone then data.2 else trailing.2 }

/-- The exchange of a tilt command: its answers, the data message, and the queue after it. -/
def tiltExchange (opening : OpenAnswers) (fifo : List Message) (call : Nat) (reply : Reply)
    (reading : Reading) (trailing : Reply) (replyLate dataLate trailingLate : Bool) :
    TiltAnswers × Option Message × List Message :=
  let replied := bulkRead replyLate (fifo ++ [.reply call reply])
  let data := bulkRead dataLate (replied.2 ++ [.reading call reading, .reply call trailing])
  let last := bulkRead trailingLate data.2
  ({ opening := opening
     out := outAnswer 20
     reply := readAnswer replied.1
     accelOut := outAnswer 16
     data := readAnswer data.1
     trailing := readAnswer last.1 }, data.1, last.2)

def getterExchange (line : Line) (opening : OpenAnswers) (reading : Reading) (trailing : Reply)
    (dataLate trailingLate : Bool) : Exchange :=
  exchange opening (line.fifo ++ [.reading line.calls reading, .reply line.calls trailing])
    dataLate trailingLate

/-- What the call stores from a message, under the tests of its function. -/
def stores (line : Line) : MotorCall → List Store
  | .setLed _ _ _ _ => []
  | .setTilt _ opening reply reading trailing replyLate dataLate trailingLate =>
      let (answers, received, _) := tiltExchange opening line.fifo line.calls reply reading
        trailing replyLate dataLate trailingLate
      if 32 ≤ answers.data.count (answers.accelOut.count 0) then note line.calls received else []
  | .getTilt opening reading trailing dataLate trailingLate _ =>
      let made := getterExchange line opening reading trailing dataLate trailingLate
      if (requestAccel line.motor made.answers).rc = 0 ∧ 32 ≤ made.answers.count then
        note line.calls made.received
      else []
  | .getAccel opening reading trailing dataLate trailingLate _ =>
      let made := getterExchange line opening reading trailing dataLate trailingLate
      if (requestAccel line.motor made.answers).rc = 0 ∧ 28 ≤ made.answers.count then
        note line.calls made.received
      else []

/-- The statics after the call, and the queue after it when the device was opened. -/
def perform (line : Line) : MotorCall → MotorState × List Message
  | .setLed color opening reply replyLate =>
      let replied := bulkRead replyLate (line.fifo ++ [.reply line.calls reply])
      ((k4wMotorSetLed line.motor color
        { opening := opening, out := outAnswer 20, reply := readAnswer replied.1 }).motor,
        replied.2)
  | .setTilt angle opening reply reading trailing replyLate dataLate trailingLate =>
      let (answers, _, fifo) := tiltExchange opening line.fifo line.calls reply reading
        trailing replyLate dataLate trailingLate
      ((k4wMotorSetTilt line.motor angle answers).motor, fifo)
  | .getTilt opening reading trailing dataLate trailingLate angle =>
      let made := getterExchange line opening reading trailing dataLate trailingLate
      ((k4wMotorGetTilt line.motor made.answers angle).1.motor, made.fifo)
  | .getAccel opening reading trailing dataLate trailingLate accel =>
      let made := getterExchange line opening reading trailing dataLate trailingLate
      ((k4wMotorGetAccel line.motor made.answers accel).1.motor, made.fifo)

/-- A device that cannot be opened gets no packet and is not read. -/
def step (line : Line) (call : MotorCall) : Option Line :=
  let (motor, fifo) := perform line call
  some {
    motor := motor
    fifo := if call.Opened then fifo else line.fifo
    calls := line.calls + 1
    stored := line.stored ++ if call.Opened then stores line call else [] }

/-- Motor calls on a device whose queue is empty at first. -/
def motorLine : Machine Line MotorCall where
  Start line := line.fifo = [] ∧ line.calls = 0 ∧ line.stored = []
  step := step

/-- The message answers the accelerometer packet of the call that stored it. -/
def Store.Matched (store : Store) : Prop :=
  ∃ content, store.message = .reading store.call content

/-- Every value stored from a message comes from the request of its own call. -/
def Matched (line : Line) : Prop :=
  ∀ store ∈ line.stored, store.Matched

/-! ## The condition -/

/-- What earlier calls have left in front of the data message of this one. -/
def leftover (line : Line) : MotorCall → List Message
  | .setTilt _ _ _ _ _ replyLate _ _ => (bulkRead replyLate line.fifo).2
  | _ => line.fifo

/-- The data read of the call times out, if the call makes one. -/
def MotorCall.dataLate : MotorCall → Bool
  | .setLed _ _ _ _ => true
  | .setTilt _ _ _ _ _ _ dataLate _ => dataLate
  | .getTilt _ _ _ dataLate _ _ => dataLate
  | .getAccel _ _ _ dataLate _ _ => dataLate

/-- No data message of an earlier call is next when the call reads its own. -/
def ReadsOwn (line : Line) (call : MotorCall) : Prop :=
  call.Opened → call.dataLate = false → (leftover line call).head?.any Message.isReading = false

instance (line : Line) (call : MotorCall) : Decidable (ReadsOwn line call) :=
  inferInstanceAs (Decidable (_ → _ → _))

/-! ## What the functions store -/

theorem ofNat_le_count {message : Message} (before : Int32) {minimum : Nat} (hmin : minimum ≤ 32) :
    Int32.ofNat minimum ≤ (readAnswer (some message)).count before ↔
      minimum ≤ message.bytes.length := by
  have hfits : message.bytes.length ≤ 512 := by
    cases message with
    | reading call content => exact content.fits
    | reply call content =>
        have hsize := content.size
        exact le_of_eq_of_le hsize (by decide)
  have hcount : (readAnswer (some message)).count before = Int32.ofNat message.bytes.length := rfl
  rw [hcount, Int32.le_iff_toInt_le, Int32.toInt_ofNat_of_lt (by omega),
    Int32.toInt_ofNat_of_lt (by omega)]
  omega

theorem received_of_count {received : Option Message} {before minimum : Int32}
    (hmin : 0 < minimum) (hcount : minimum ≤ (readAnswer received).count before) :
    ∃ message, received = some message := by
  cases received with
  | none =>
      have hzero : (readAnswer none).count before = 0 := rfl
      rw [hzero] at hcount
      exact absurd (Int32.lt_of_lt_of_le hmin hcount) Int32.lt_irrefl
  | some message => exact ⟨message, rfl⟩

/-- What a function makes of a buffer, it makes of the message that is noted. -/
theorem value_noted {α : Type} {call : Nat} {received : Option Message} {stored : Prop}
    [Decidable stored] (hreceived : stored → ∃ message, received = some message)
    (value : (Nat → UInt8) → α) (kept : α) :
    let shown := if stored then value (readAnswer received).data else kept
    let noted := if stored then note call received else []
    (noted = [] → shown = kept) ∧ ∀ store ∈ noted, shown = value store.message.data := by
  intro shown noted
  by_cases hstored : stored
  · obtain ⟨message, rfl⟩ := hreceived hstored
    have hnoted : noted = [⟨call, message⟩] := if_pos hstored
    have hshown : shown = value message.data := if_pos hstored
    rw [hnoted, hshown]
    refine ⟨nofun, fun store hmem => ?_⟩
    rw [List.mem_singleton.mp hmem]
  · have hnoted : noted = [] := if_neg hstored
    have hshown : shown = kept := if_neg hstored
    rw [hnoted, hshown]
    exact ⟨fun _ => rfl, nofun⟩

/-- `k4w_motor_set_tilt` stores the tilt of the message that is noted, or none. -/
theorem setTilt_stores {line : Line} {angle : Double} {opening : OpenAnswers} {reply : Reply}
    {reading : Reading} {trailing : Reply} {replyLate dataLate trailingLate : Bool}
    (hopened : (motorOpenDevice opening).opened = true) :
    let call := MotorCall.setTilt angle opening reply reading trailing replyLate dataLate
      trailingLate
    (stores line call = [] → (perform line call).1.currentTilt = line.motor.currentTilt) ∧
      ∀ store ∈ stores line call,
        (perform line call).1.currentTilt = tiltReading store.message.data := by
  have hvalue := fun received =>
    @value_noted Double line.calls received
      (32 ≤ (readAnswer received).count ((outAnswer 16).count 0)) _
      (received_of_count (by decide)) tiltReading line.motor.currentTilt
  intro call
  simp only [call, stores, perform, k4wMotorSetTilt, tiltExchange, hopened, Bool.not_true,
    Bool.false_eq_true, if_false]
  exact hvalue _

/-- Both getters use the data message under the same two tests. -/
theorem getters_eq (motor : MotorState) (answers : GetAnswers) (angle : Double) (accel : Accel) :
    let called := requestAccel motor answers
    (k4wMotorGetTilt motor answers angle).1.motor.currentTilt =
      (if called.rc = 0 ∧ 32 ≤ answers.count then tiltReading answers.data.data
        else motor.currentTilt) ∧
    (called.rc = 0 ∧ 32 ≤ answers.count →
      (k4wMotorGetTilt motor answers angle).2 = tiltReading answers.data.data) ∧
    (k4wMotorGetAccel motor answers accel).2 =
      if called.rc = 0 ∧ 28 ≤ answers.count then
        ⟨accelReading answers.data.data 16, accelReading answers.data.data 20,
          accelReading answers.data.data 24⟩
      else accel := by
  have hkept : (requestAccel motor answers).motor.currentTilt = motor.currentTilt := by
    simp only [requestAccel]
    repeat' split
    all_goals rfl
  intro called
  by_cases hrc : called.rc = 0
  · have hrc' : (requestAccel motor answers).rc = 0 := hrc
    refine ⟨?_, ?_, ?_⟩
    · simp only [k4wMotorGetTilt, hrc', called, ne_eq, not_true_eq_false, if_false, true_and]
      split
      · rfl
      · exact hkept
    · intro hstored
      simp [k4wMotorGetTilt, hrc', hstored.2]
    · simp [k4wMotorGetAccel, hrc', called]
      split <;> rfl
  · have hrc' : (requestAccel motor answers).rc ≠ 0 := hrc
    refine ⟨?_, fun hstored => absurd hstored.1 hrc, ?_⟩
    · simp [k4wMotorGetTilt, hrc', hkept, called]
    · simp [k4wMotorGetAccel, hrc', called]

/-- `k4w_motor_get_tilt` stores the tilt of the message that is noted, or none. -/
theorem getTilt_stores {line : Line} {opening : OpenAnswers} {reading : Reading}
    {trailing : Reply} {dataLate trailingLate : Bool} {angle : Double} :
    let call := MotorCall.getTilt opening reading trailing dataLate trailingLate angle
    let made := getterExchange line opening reading trailing dataLate trailingLate
    (stores line call = [] → (perform line call).1.currentTilt = line.motor.currentTilt) ∧
      ∀ store ∈ stores line call,
        (perform line call).1.currentTilt = tiltReading store.message.data ∧
          (k4wMotorGetTilt line.motor made.answers angle).2 = tiltReading store.message.data := by
  intro call made
  obtain ⟨htilt, hangle, -⟩ := getters_eq line.motor made.answers angle ⟨angle, angle, angle⟩
  obtain ⟨hnone, hsome⟩ := @value_noted Double line.calls made.received
    ((requestAccel line.motor made.answers).rc = 0 ∧ 32 ≤ made.answers.count) _
    (fun h => received_of_count (by decide) h.2) tiltReading line.motor.currentTilt
  refine ⟨fun hstores => htilt.trans (hnone hstores), fun store hmem => ?_⟩
  have hshown := htilt.trans (hsome store hmem)
  refine ⟨hshown, ?_⟩
  by_cases hstored : (requestAccel line.motor made.answers).rc = 0 ∧ 32 ≤ made.answers.count
  · rw [if_pos hstored] at htilt
    rw [hangle hstored, ← htilt]
    exact hshown
  · rw [show stores line call = [] from if_neg hstored] at hmem
    cases hmem

/-- `k4w_motor_get_accel` stores the accelerations of the message that is noted, or none. -/
theorem getAccel_stores {line : Line} {opening : OpenAnswers} {reading : Reading}
    {trailing : Reply} {dataLate trailingLate : Bool} {accel : Accel} :
    let call := MotorCall.getAccel opening reading trailing dataLate trailingLate accel
    let made := getterExchange line opening reading trailing dataLate trailingLate
    (stores line call = [] → (k4wMotorGetAccel line.motor made.answers accel).2 = accel) ∧
      ∀ store ∈ stores line call,
        (k4wMotorGetAccel line.motor made.answers accel).2 =
          ⟨accelReading store.message.data 16, accelReading store.message.data 20,
            accelReading store.message.data 24⟩ := by
  intro call made
  obtain ⟨-, -, haccel⟩ := getters_eq line.motor made.answers accel.x accel
  obtain ⟨hnone, hsome⟩ := @value_noted Accel line.calls made.received
    ((requestAccel line.motor made.answers).rc = 0 ∧ 28 ≤ made.answers.count) _
    (fun h => received_of_count (by decide) h.2)
    (fun data => ⟨accelReading data 16, accelReading data 20, accelReading data 24⟩) accel
  exact ⟨fun hstores => haccel.trans (hnone hstores),
    fun store hmem => haccel.trans (hsome store hmem)⟩

/-! ## Which message a read takes -/

theorem matched_reading {call : Nat} {message : Message} :
    (Store.mk call message).Matched ↔ message.isReading = true ∧ message.call = call := by
  cases message with
  | reading other content =>
      refine ⟨fun ⟨_, heq⟩ => ⟨rfl, ?_⟩, fun ⟨_, heq⟩ => ⟨content, ?_⟩⟩
      · exact (Message.reading.inj heq).1
      · exact congrArg (Message.reading · content) heq
  | reply other content => exact ⟨nofun, nofun⟩

/-- Only a data message is long enough to be used. -/
theorem isReading_of_count {message : Message} {before : Int32} {minimum : Nat}
    (hlow : 12 < minimum) (hhigh : minimum ≤ 32) :
    Int32.ofNat minimum ≤ (readAnswer (some message)).count before ↔
      message.isReading = true := by
  rw [ofNat_le_count before hhigh]
  cases message with
  | reading call content => exact ⟨fun _ => rfl, fun _ => le_trans hhigh content.long⟩
  | reply call content =>
      have hsize : (Message.reply call content).bytes.length = 12 := content.size
      refine ⟨fun hle => ?_, nofun⟩
      omega

theorem noted_none (call : Nat) (stored : Prop) [Decidable stored] :
    (if stored then note call none else []) = [] :=
  ite_self []

/-- A message that is noted under a test is matched if the test lets only its data pass. -/
theorem noted_some_matched_iff {call : Nat} {message : Message} {stored : Prop}
    [Decidable stored] :
    (∀ store ∈ (if stored then note call (some message) else []), store.Matched) ↔
      (stored → message.isReading = true ∧ message.call = call) := by
  by_cases hstored : stored
  · rw [if_pos hstored, note, List.forall_mem_singleton, matched_reading]
    exact ⟨fun hmatched _ => hmatched, fun himp => himp hstored⟩
  · rw [if_neg hstored]
    exact iff_of_true nofun fun h => absurd h hstored

/--
A data read in front of which lie the messages of earlier calls stores its own
message, or none, exactly when none of those is a data message at the head.
-/
theorem note_matched_iff {call minimum : Nat} (hlow : 12 < minimum) (hhigh : minimum ≤ 32)
    (late : Bool) {old own : List Message} (hold : ∀ message ∈ old, message.call < call)
    (hown : ∀ message, own.head? = some message → message.call = call) (before : Int32) :
    let received := (bulkRead late (old ++ own)).1
    (∀ store ∈ (if Int32.ofNat minimum ≤ (readAnswer received).count before then
        note call received else []), store.Matched) ↔
      (late = false → old.head?.any Message.isReading = false) := by
  intro received
  cases late with
  | true =>
      have hnone : received = none := rfl
      rw [hnone, noted_none]
      exact iff_of_true nofun nofun
  | false =>
      cases old with
      | nil =>
          have hreceived : received = own.head? := rfl
          refine iff_of_true ?_ fun _ => rfl
          rw [hreceived]
          cases hhead : own.head? with
          | none =>
              rw [noted_none]
              nofun
          | some message =>
              rw [noted_some_matched_iff, isReading_of_count hlow hhigh]
              exact fun hreading => ⟨hreading, hown message hhead⟩
      | cons first rest =>
          have hreceived : received = some first := rfl
          have hcall := hold first List.mem_cons_self
          have hany : (first :: rest).head?.any Message.isReading = first.isReading := rfl
          rw [hreceived, noted_some_matched_iff, isReading_of_count hlow hhigh, hany]
          constructor
          · intro hmatched _
            refine Bool.eq_false_iff.mpr fun hreading => ?_
            have hsame := (hmatched hreading).2
            omega
          · intro hnone hreading
            rw [hnone rfl] at hreading
            cases hreading

/-- A message behind the queue stays behind what a read leaves of it. -/
theorem bulkRead_concat (late : Bool) (fifo : List Message) (message : Message) :
    ∃ own, (own = [] ∨ own = [message]) ∧
      (bulkRead late (fifo ++ [message])).2 = (bulkRead late fifo).2 ++ own := by
  cases late with
  | true => exact ⟨[message], .inr rfl, rfl⟩
  | false =>
      cases fifo with
      | nil => exact ⟨[], .inl rfl, rfl⟩
      | cons first rest => exact ⟨[message], .inr rfl, rfl⟩

theorem mem_of_mem_bulkRead {late : Bool} {fifo : List Message} {message : Message}
    (hmem : message ∈ (bulkRead late fifo).2) : message ∈ fifo := by
  cases late with
  | true => exact hmem
  | false => exact List.mem_of_mem_tail hmem

/-- The messages in the queue answer calls that are over. -/
def Aged (line : Line) : Prop :=
  ∀ message ∈ line.fifo, message.call < line.calls

theorem leftover_aged {line : Line} (haged : Aged line) (call : MotorCall) :
    ∀ message ∈ leftover line call, message.call < line.calls := by
  intro message hmem
  cases call with
  | setTilt angle opening reply reading trailing replyLate dataLate trailingLate =>
      exact haged message (mem_of_mem_bulkRead hmem)
  | setLed | getTilt | getAccel => exact haged message hmem

/-- With the device open, a getter that has a long enough message has succeeded. -/
theorem getter_succeeds {motor : MotorState} {opening : OpenAnswers} {fifo : List Message}
    {dataLate trailingLate : Bool} {minimum : Int32}
    (hopened : (motorOpenDevice opening).opened = true) (hmin : 0 < minimum) :
    let made := exchange opening fifo dataLate trailingLate
    ((requestAccel motor made.answers).rc = 0 ∧ minimum ≤ made.answers.count) ↔
      minimum ≤ (readAnswer made.received).count ((outAnswer 16).count 0) := by
  intro made
  refine ⟨fun hboth => hboth.2, fun hcount => ⟨?_, hcount⟩⟩
  obtain ⟨message, hmessage⟩ := received_of_count hmin hcount
  refine (requestAccel_rc motor made.answers).mpr ⟨hopened, rfl, ?_⟩
  have hdata : made.answers.data = readAnswer made.received := rfl
  rw [hdata, hmessage]
  rfl

/-- Under either of their tests, a getter stores its own data, or none, when it is next. -/
theorem getter_matched_iff {line : Line} (haged : Aged line) {opening : OpenAnswers}
    (hopened : (motorOpenDevice opening).opened = true) (reading : Reading) (trailing : Reply)
    (dataLate trailingLate : Bool) {minimum : Nat} (hlow : 12 < minimum) (hhigh : minimum ≤ 32) :
    let made := getterExchange line opening reading trailing dataLate trailingLate
    (∀ store ∈ (if (requestAccel line.motor made.answers).rc = 0 ∧
        Int32.ofNat minimum ≤ made.answers.count then note line.calls made.received else []),
        store.Matched) ↔
      (dataLate = false → line.fifo.head?.any Message.isReading = false) := by
  intro made
  have hpositive : (0 : Int32) < Int32.ofNat minimum := by
    rw [Int32.lt_iff_toInt_lt, Int32.toInt_ofNat_of_lt (by omega)]
    exact Int.natCast_pos.mpr (by omega)
  have hstored := @getter_succeeds line.motor opening
    (line.fifo ++ [.reading line.calls reading, .reply line.calls trailing]) dataLate trailingLate
    (Int32.ofNat minimum) hopened hpositive
  have hfirst : ∀ message, [Message.reading line.calls reading, .reply line.calls trailing].head? =
      some message → message.call = line.calls := by
    rintro message ⟨⟩
    rfl
  have hsame := if_congr hstored (Eq.refl (note line.calls made.received)) (Eq.refl [])
  have hmatched := @note_matched_iff line.calls minimum hlow hhigh dataLate _ _ haged hfirst
    ((outAnswer 16).count 0)
  exact (iff_of_eq (congrArg (fun noted => ∀ store ∈ noted, Store.Matched store) hsame)).trans
    hmatched

/-- A call stores nothing but its own data exactly when it reads its own. -/
theorem stores_matched_iff {line : Line} (haged : Aged line) {call : MotorCall}
    (hopened : call.Opened) :
    (∀ store ∈ stores line call, store.Matched) ↔ ReadsOwn line call := by
  have hold := leftover_aged haged call
  have hreads : ReadsOwn line call ↔
      (call.dataLate = false → (leftover line call).head?.any Message.isReading = false) :=
    ⟨fun h => h hopened, fun h _ => h⟩
  rw [hreads]
  cases call with
  | setLed color opening reply replyLate => exact ⟨fun _ => nofun, fun _ => nofun⟩
  | setTilt angle opening reply reading trailing replyLate dataLate trailingLate =>
      obtain ⟨own, hown, hqueue⟩ :=
        bulkRead_concat replyLate line.fifo (.reply line.calls reply)
      have hcall : ∀ message,
          (own ++ [Message.reading line.calls reading, .reply line.calls trailing]).head? =
            some message → message.call = line.calls := by
        intro message hhead
        rcases hown with rfl | rfl <;> cases hhead <;> rfl
      have hmatched := @note_matched_iff line.calls 32 (by decide) (by decide) dataLate _ _ hold
        hcall ((outAnswer 16).count 0)
      rw [← List.append_assoc, leftover, ← hqueue] at hmatched
      exact hmatched
  | getTilt opening reading trailing dataLate trailingLate angle =>
      exact @getter_matched_iff line haged opening hopened reading trailing dataLate trailingLate
        32 (by decide) (by decide)
  | getAccel opening reading trailing dataLate trailingLate accel =>
      exact @getter_matched_iff line haged opening hopened reading trailing dataLate trailingLate
        28 (by decide) (by decide)

/-! ## Runs -/

theorem mem_of_mem_exchange (opening : OpenAnswers) {fifo : List Message}
    {dataLate trailingLate : Bool} {message : Message}
    (hmem : message ∈ (exchange opening fifo dataLate trailingLate).fifo) : message ∈ fifo := by
  simp only [exchange] at hmem
  split at hmem
  · exact mem_of_mem_bulkRead hmem
  · exact mem_of_mem_bulkRead (mem_of_mem_bulkRead hmem)

/-- What is in the queue after a call was there before, or answers the call. -/
theorem mem_perform {line : Line} {call : MotorCall} {message : Message}
    (hmem : message ∈ (perform line call).2) :
    message ∈ line.fifo ∨ message.call = line.calls := by
  cases call with
  | setLed color opening reply replyLate =>
      rcases List.mem_append.mp (mem_of_mem_bulkRead hmem) with hold | hown
      · exact .inl hold
      · rw [List.mem_singleton.mp hown]
        exact .inr rfl
  | setTilt angle opening reply reading trailing replyLate dataLate trailingLate =>
      have hsent := mem_of_mem_bulkRead (mem_of_mem_bulkRead hmem)
      rcases List.mem_append.mp hsent with hreplied | hown
      · rcases List.mem_append.mp (mem_of_mem_bulkRead hreplied) with hold | hreply
        · exact .inl hold
        · rw [List.mem_singleton.mp hreply]
          exact .inr rfl
      · simp only [List.mem_cons, List.not_mem_nil, or_false] at hown
        rcases hown with rfl | rfl <;> exact .inr rfl
  | getTilt opening | getAccel opening =>
      rcases List.mem_append.mp (mem_of_mem_exchange opening hmem) with hold | hown
      · exact .inl hold
      · simp only [List.mem_cons, List.not_mem_nil, or_false] at hown
        rcases hown with rfl | rfl <;> exact .inr rfl

/-- A step keeps the queue aged, and the stores matched exactly when it reads its own. -/
theorem matched_step {line next : Line} {call : MotorCall} (haged : Aged line)
    (hstep : step line call = some next) :
    Aged next ∧ (Matched next ↔ Matched line ∧ ReadsOwn line call) := by
  cases hstep
  constructor
  · intro message hmem
    have hcases : message ∈ line.fifo ∨ message.call = line.calls := by
      dsimp only at hmem
      split at hmem
      · exact mem_perform hmem
      · exact .inl hmem
    rcases hcases with hold | hown
    · exact Nat.lt_succ_of_lt (haged message hold)
    · rw [hown]
      exact Nat.lt_succ_self _
  · simp only [Matched, List.mem_append, or_imp, forall_and]
    refine and_congr_right fun _ => ?_
    by_cases hopened : call.Opened
    · rw [if_pos hopened]
      exact stores_matched_iff haged hopened
    · rw [if_neg hopened]
      exact ⟨fun _ h => absurd h hopened, fun _ => nofun⟩

theorem aged_run {first last : Line} {trace : List (Line × MotorCall)}
    (hrun : motorLine.Run first trace last) (hfirst : Aged first) : Aged last := by
  have hmeets : Machine.Meets (fun _ _ => True) trace := fun _ _ => trivial
  exact hrun.preserves hmeets hfirst fun haged _ hstep => (matched_step haged hstep).1

/-- Everything stored is matched exactly when every call of the run reads its own. -/
theorem matched_iff_readsOwn {first last : Line} {trace : List (Line × MotorCall)}
    (hstart : motorLine.Start first) (hrun : motorLine.Run first trace last) :
    Matched last ↔ Machine.Meets ReadsOwn trace := by
  obtain ⟨hfifo, -, hstored⟩ := hstart
  have hfirst : Aged first := by
    intro message hmem
    rw [hfifo] at hmem
    cases hmem
  induction hrun with
  | refl =>
      refine ⟨fun _ _ hentry => absurd hentry List.not_mem_nil, fun _ store hmem => ?_⟩
      rw [hstored] at hmem
      cases hmem
  | @tail middle last trace call hprefix hstep ih =>
      have hnext := (matched_step (aged_run hprefix hfirst) hstep).2
      rw [Machine.meets_append, Machine.meets_singleton]
      exact hnext.trans (and_congr_left fun _ => ih)

/-! ## Late answers -/

/-- An audio device that opens at the first attempt. -/
def openingAnswers : OpenAnswers where
  found := true
  kernelDriverActive := fun _ => 0
  claims := fun _ => (0, 0)

/-- A data message with one byte repeated. -/
def plainReading (byte : UInt8) : Reading where
  bytes := List.replicate 32 byte
  long := by rw [List.length_replicate]
  fits := by rw [List.length_replicate]; decide

def plainReply : Reply where
  bytes := List.replicate 12 0
  size := List.length_replicate

def idleLine : Line where
  motor := { tagSeq := 1, currentTilt := ofInt32 0, targetTilt := ofInt32 0, busy := 0
             locked := false }
  fifo := []
  calls := 0
  stored := []

/-- The LED reply is late, and a tilt is read all the same. -/
def ledThenTilt : List MotorCall :=
  [.setLed 1 openingAnswers plainReply true,
    .getTilt openingAnswers (plainReading 2) plainReply false false (ofInt32 0),
    .getTilt openingAnswers (plainReading 4) plainReply true true (ofInt32 0)]

theorem matched_ledThenTilt : ∃ last, motorLine.play idleLine ledThenTilt = some last ∧
    Matched last := by
  obtain ⟨last, hplay⟩ : ∃ last, motorLine.play idleLine ledThenTilt = some last := ⟨_, rfl⟩
  refine ⟨last, hplay, ?_⟩
  refine (matched_iff_readsOwn ⟨rfl, rfl, rfl⟩ (Machine.run_of_play hplay)).mpr ?_
  decide

/-- The data message of a getter comes late; the next getter stores it as its own. -/
theorem not_matched_of_lateAccel :
    ¬ ∀ line, motorLine.Reachable line → Matched line := by
  intro hall
  let lateAccel : List MotorCall :=
    [.getAccel openingAnswers (plainReading 2) plainReply true false
        ⟨ofInt32 0, ofInt32 0, ofInt32 0⟩,
      .getTilt openingAnswers (plainReading 4) plainReply false false (ofInt32 0)]
  obtain ⟨last, hplay⟩ : ∃ last, motorLine.play idleLine lateAccel = some last := ⟨_, rfl⟩
  have hmatched := hall last ⟨idleLine, _, ⟨rfl, rfl, rfl⟩, Machine.run_of_play hplay⟩
  have hstored : ∃ store ∈ last.stored, store.call = 1 ∧ store.message.call = 0 := by
    cases hplay
    exact ⟨_, List.mem_singleton_self _, rfl, rfl⟩
  obtain ⟨store, hmem, hcall, hmessage⟩ := hstored
  obtain ⟨content, hcontent⟩ := hmatched store hmem
  rw [hcontent, hcall] at hmessage
  cases hmessage

end K4W.Motor
