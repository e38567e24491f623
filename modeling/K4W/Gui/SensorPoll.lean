import K4W.Library.CInt
import K4W.Library.Loop
import K4W.Shm.Layout

/-!
# The sensor poll thread

`SensorPollThread::run` asks the daemon for its status again and again and
tells the window whether the daemon is there.  `failCount` counts failed polls,
but a short reply leaves it alone, and a request that was not written is counted
without a look at the threshold.
-/

namespace K4W.Gui.SensorPoll

open K4W.Library
open K4W.Shm

/-! ## The loop -/

/-- `sizeof(k4w_status_t)` -/
def statusBytes : Int := 160

/-- What an iteration meets; one with `m_enabled` false makes no poll. -/
inductive Poll where
  | disabled
  | notConnected
  | notWritten
  | timedOut
  /-- The result of `read`, and the buffer after it. -/
  | received (n : Int) (buf : Nat → UInt8)

/-- The arguments of `dataReady`, the floats by their bits. -/
structure Readings where
  ax : UInt32
  ay : UInt32
  az : UInt32
  tiltDeg : UInt32
  motorOk : Bool
deriving DecidableEq

/-- The fields of the `k4w_status_t` in the buffer. -/
def readingsOf (buf : Nat → UInt8) : Readings :=
  let resp : MappedBytes := ⟨256, buf⟩
  { ax := resp.word 8
    ay := resp.word 12
    az := resp.word 16
    tiltDeg := resp.word 4
    motorOk := buf 0 != 0 }

inductive Signal where
  | dataReady (readings : Readings)
  | daemonStatus (online : Bool)
deriving DecidableEq

def failThreshold : Int32 := 3

/-- The two branches that count a failed poll and compare with the threshold. -/
def countFailure (failCount : Int32) : Int32 × List Signal :=
  let failCount := failCount + 1
  (failCount, if failThreshold ≤ failCount then [.daemonStatus false] else [])

/-- `SensorPollThread::run` with `failCount` as its state and the emitted signals. -/
def run : Loop Int32 Poll (List Signal) where
  initial := 0
  step := fun failCount poll =>
    match poll with
    | .disabled => (failCount, [])
    | .notConnected => countFailure failCount
    | .notWritten => (failCount + 1, [])
    | .received n buf =>
        if statusBytes ≤ n then
          (0, [.dataReady (readingsOf buf), .daemonStatus true])
        else
          (failCount, [])
    | .timedOut => countFailure failCount

/-! ## What the signals should say -/

def isPoll : Poll → Bool
  | .disabled => false
  | _ => true

/-- The poll did not receive a whole `k4w_status_t`. -/
def failed : Poll → Bool
  | .disabled => false
  | .notConnected | .notWritten | .timedOut => true
  | .received n _ => decide (n < statusBytes)

/-- The poll was answered with less than a `k4w_status_t`. -/
def short : Poll → Bool
  | .received n _ => decide (n < statusBytes)
  | _ => false

/-- The poll fails in one of the branches that compare with the threshold. -/
def announced : Poll → Bool
  | .notConnected | .timedOut => true
  | _ => false

/-- The failed polls in a row at the end of the past, newest first. -/
def failuresInRow (past : List Poll) : List Poll :=
  latestRow failed (past.filter isPoll)

/-- The `daemonStatus` signals among the emitted ones. -/
def statuses (signals : List Signal) : List Bool :=
  signals.filterMap fun
    | .daemonStatus online => some online
    | .dataReady _ => none

/-- The `daemonStatus` signals that a poll should emit, given the row that it ends. -/
def dueStatuses (poll : Poll) (row : List Poll) : List Bool :=
  if !isPoll poll then []
  else if !failed poll then [true]
  else if 3 ≤ row.length then [false]
  else []

/-- The iteration after the past emits what it should. -/
def Announces (past : List Poll) (poll : Poll) : Prop :=
  statuses (run.output (run.state past) poll) =
    dueStatuses poll (failuresInRow (past ++ [poll]))

/-- Every iteration emits what it should. -/
def AllAnnounced (polls : List Poll) : Prop :=
  ∀ past poll rest, polls = past ++ poll :: rest → Announces past poll

/--
A row of three or more failed polls: its newest one is a failed connection or a
timeout, none of them was answered too shortly, and `failCount` can count them.
-/
def Announceable (row : List Poll) : Prop :=
  3 ≤ row.length → (∀ poll ∈ row.head?, announced poll = true) ∧
    (∀ poll ∈ row, short poll = false) ∧ row.length < 2 ^ 31

/-! ## The counter and the row -/

theorem failuresInRow_disabled {past : List Poll} {poll : Poll} (hpoll : isPoll poll = false) :
    failuresInRow (past ++ [poll]) = failuresInRow past := by
  simp [failuresInRow, hpoll]

theorem isPoll_of_failed {poll : Poll} (hfailed : failed poll = true) : isPoll poll = true := by
  cases poll with
  | disabled => cases hfailed
  | _ => rfl

theorem failuresInRow_failed {past : List Poll} {poll : Poll} (hfailed : failed poll = true) :
    failuresInRow (past ++ [poll]) = poll :: failuresInRow past := by
  simp [failuresInRow, isPoll_of_failed hfailed, hfailed]

theorem failuresInRow_success {past : List Poll} {poll : Poll} (hpoll : isPoll poll = true)
    (hfailed : failed poll = false) : failuresInRow (past ++ [poll]) = [] := by
  simp [failuresInRow, hpoll, hfailed]

/-- The polls of a row that `failCount` counts. -/
def counted (row : List Poll) : Nat :=
  row.countP fun poll => !short poll

theorem counted_le (row : List Poll) : counted row ≤ row.length :=
  List.countP_le_length

theorem counted_eq_length_iff {row : List Poll} :
    counted row = row.length ↔ ∀ poll ∈ row, short poll = false := by
  simp [counted, List.countP_eq_length]

theorem counted_cons (poll : Poll) (row : List Poll) :
    counted (poll :: row) = counted row + if short poll then 0 else 1 := by
  cases hshort : short poll <;> simp [counted, hshort]

/-- `failCount` counts the polls of the row that got no reply at all. -/
theorem failCount_eq (past : List Poll) :
    run.state past = Int32.ofNat (counted (failuresInRow past)) := by
  have hsucc : ∀ row, Int32.ofNat (counted row) + 1 = Int32.ofNat (counted row + 1) := by
    intro row
    rw [Int32.ofNat_add]
    rfl
  refine @Loop.state_of_past _ _ _ run
    (fun past failCount => failCount = Int32.ofNat (counted (failuresInRow past))) ?_ ?_ past
  · rfl
  · intro past failCount poll hcount
    rw [hcount]
    cases poll with
    | disabled => rw [failuresInRow_disabled rfl]; rfl
    | notConnected | notWritten | timedOut =>
        rw [failuresInRow_failed rfl, counted_cons]
        exact hsucc _
    | received n buf =>
        by_cases hn : statusBytes ≤ n
        · have hfailed : failed (.received n buf) = false := by simpa [failed] using hn
          rw [failuresInRow_success rfl hfailed]
          simp [Loop.next, run, hn, counted]
        · have hlt : n < statusBytes := Int.not_le.mp hn
          rw [failuresInRow_failed (by simpa [failed] using hlt), counted_cons]
          simp [Loop.next, run, hn, short, hlt]

/-- What a poll announces after a number of counted failures. -/
theorem statuses_output (failCount : Int32) (poll : Poll) :
    statuses (run.output failCount poll) =
      if announced poll then
        if failThreshold ≤ failCount + 1 then [false] else []
      else if isPoll poll && !failed poll then [true]
      else [] := by
  cases poll with
  | disabled | notWritten => rfl
  | notConnected | timedOut =>
      simp only [Loop.output, run, countFailure, announced, if_true]
      split <;> rfl
  | received n buf =>
      simp only [Loop.output, run, announced, isPoll, failed]
      by_cases hn : statusBytes ≤ n
      · simp [hn, statuses]
      · simp [hn, statuses, Int.not_le.mp hn]

theorem announces_of_not_failed {past : List Poll} {poll : Poll}
    (hfailed : failed poll = false) : Announces past poll := by
  have hannounced : announced poll = false := by
    cases poll with
    | notConnected | timedOut => cases hfailed
    | _ => rfl
  rw [Announces, statuses_output, dueStatuses, hannounced]
  cases hpoll : isPoll poll <;> simp [hfailed]

theorem offline_eq_iff {P Q : Prop} [Decidable P] [Decidable Q] :
    ((if P then [false] else []) = if Q then [false] else []) ↔ (P ↔ Q) := by
  by_cases hP : P <;> by_cases hQ : Q <;> simp [hP, hQ]

/-- A failed poll emits what it should when the counter and the row agree on the threshold. -/
theorem announces_failed_iff {past : List Poll} {poll : Poll} (hfailed : failed poll = true) :
    Announces past poll ↔
      ((announced poll = true ∧
          3 ≤ (Int32.ofNat (counted (failuresInRow (past ++ [poll])))).toInt) ↔
        3 ≤ (failuresInRow (past ++ [poll])).length) := by
  have hpoll := isPoll_of_failed hfailed
  rw [Announces, statuses_output, dueStatuses]
  simp only [hpoll, hfailed, Bool.not_true, Bool.and_false, Bool.false_eq_true, if_false]
  cases hannounced : announced poll with
  | false => by_cases hrow : 3 ≤ (failuresInRow (past ++ [poll])).length <;> simp [hrow]
  | true =>
      have hshort : short poll = false := by
        cases poll with
        | notConnected | timedOut => rfl
        | _ => cases hannounced
      have hcount : run.state past + 1 =
          Int32.ofNat (counted (failuresInRow (past ++ [poll]))) := by
        rw [failCount_eq, failuresInRow_failed hfailed, counted_cons, hshort, Int32.ofNat_add]
        rfl
      have hthreshold : failThreshold ≤ run.state past + 1 ↔
          3 ≤ (Int32.ofNat (counted (failuresInRow (past ++ [poll])))).toInt := by
        rw [hcount, Int32.le_iff_toInt_le]
        rfl
      simp only [hthreshold, if_true, offline_eq_iff, true_and]

/-! ## Every sequence of polls -/

theorem announceable_nil : Announceable [] :=
  fun hlong => absurd hlong (by decide)

theorem short_of_announced {poll : Poll} (hannounced : announced poll = true) :
    short poll = false := by
  cases poll with
  | notConnected | timedOut => rfl
  | _ => cases hannounced

theorem announces_of_announceable {past : List Poll} {poll : Poll} (hfailed : failed poll = true)
    (hrow : Announceable (failuresInRow (past ++ [poll]))) : Announces past poll := by
  rw [announces_failed_iff hfailed]
  by_cases hlong : 3 ≤ (failuresInRow (past ++ [poll])).length
  · obtain ⟨hhead, hshort, hfit⟩ := hrow hlong
    have hcounted := counted_eq_length_iff.mpr hshort
    have hannounced : announced poll = true := by
      apply hhead
      rw [failuresInRow_failed hfailed]
      rfl
    rw [hcounted, CInt.toInt_ofNat_eq hfit]
    exact iff_of_true ⟨hannounced, by exact_mod_cast hlong⟩ hlong
  · have hle := counted_le (failuresInRow (past ++ [poll]))
    refine iff_of_false ?_ hlong
    rintro ⟨-, hthree⟩
    rw [CInt.toInt_ofNat_eq (by omega)] at hthree
    omega

/-- A poll that emits what it should keeps the row one that can be announced. -/
theorem announceable_of_announces {past : List Poll} {poll : Poll}
    (hfailed : failed poll = true) (hbefore : Announceable (failuresInRow past))
    (hannounces : Announces past poll) : Announceable (failuresInRow (past ++ [poll])) := by
  intro hlong
  obtain ⟨hannounced, hthree⟩ := ((announces_failed_iff hfailed).mp hannounces).mpr hlong
  have hnotShort := short_of_announced hannounced
  rw [failuresInRow_failed hfailed] at hlong hthree ⊢
  have hle := counted_le (poll :: failuresInRow past)
  have hlength : (poll :: failuresInRow past).length = (failuresInRow past).length + 1 := rfl
  rw [hlength] at hlong hle
  have hall : counted (poll :: failuresInRow past) = (failuresInRow past).length + 1 ∧
      (failuresInRow past).length + 1 ≤ 2 ^ 31 := by
    by_cases hold : 3 ≤ (failuresInRow past).length
    · obtain ⟨-, hshort, hfit⟩ := hbefore hold
      have hcounted := counted_eq_length_iff.mpr hshort
      rw [counted_cons, hcounted, hnotShort]
      exact ⟨rfl, hfit⟩
    · -- The third failure in a row: all three must have been counted.
      rw [CInt.toInt_ofNat_eq (by omega)] at hthree
      omega
  obtain ⟨hcounted, hfit⟩ := hall
  refine ⟨?_, ?_, ?_⟩
  · intro newest hnewest
    cases hnewest
    exact hannounced
  · exact counted_eq_length_iff.mp (hcounted.trans hlength.symm)
  · rw [hlength]
    refine Nat.lt_of_le_of_ne hfit fun hwrap => ?_
    rw [hcounted, hwrap] at hthree
    exact absurd hthree (by decide)

/--
Every poll of a sequence emits what it should exactly when each row of failed
polls in it can be announced.
-/
theorem allAnnounced_iff_announceable (polls : List Poll) :
    AllAnnounced polls ↔
      ∀ past rest, polls = past ++ rest → Announceable (failuresInRow past) := by
  constructor
  · intro hall past
    induction past using List.reverseRecOn with
    | nil => exact fun _ _ => announceable_nil
    | append_singleton past poll ih =>
        intro rest hpolls
        have hsplit : polls = past ++ poll :: rest := by simpa using hpolls
        have hbefore := ih (poll :: rest) hsplit
        cases hfailed : failed poll with
        | true => exact announceable_of_announces hfailed hbefore (hall past poll rest hsplit)
        | false =>
            cases hpoll : isPoll poll with
            | true =>
                rw [failuresInRow_success hpoll hfailed]
                exact announceable_nil
            | false =>
                rw [failuresInRow_disabled hpoll]
                exact hbefore
  · intro hrows past poll rest hpolls
    cases hfailed : failed poll with
    | false => exact announces_of_not_failed hfailed
    | true => exact announces_of_announceable hfailed (hrows (past ++ [poll]) rest (by simp [hpolls]))

/-- The third request in a row that cannot be written is not announced. -/
theorem not_allAnnounced_notWritten : ¬ ∀ polls : List Poll, AllAnnounced polls := by
  intro hall
  have hthird := hall [.notWritten, .notWritten, .notWritten] [.notWritten, .notWritten]
    .notWritten [] rfl
  exact absurd hthird (by unfold Announces; decide)

end K4W.Gui.SensorPoll
