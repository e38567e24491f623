import K4W.Library.CInt
import K4W.Library.Loop

/-!
# Device loss

The loop of `k4w_kinect_run` polls depth and video.  It counts the depth polls
that fail in a row, gives the device up after 31 of them, and starts to count
anew after a success, after a motor pause, and after it gave the device up.
-/

namespace K4W.Daemon.DeviceLoss

open K4W.Library

/-! ## The loop -/

/-- What `freenect_sync_get_depth` or `freenect_sync_get_video` returns and stores. -/
structure SyncFrame where
  status : Int32
  data : Bool

/-- What an iteration meets. -/
inductive Observed where
  | motorPaused
  | polled (depth video : SyncFrame)

/-- The outputs of the daemon that the loop looks at. -/
structure Streams where
  depthShm : Bool
  videoShm : Bool
  v4l2Fd : Int32

/-- The calls of an iteration. -/
inductive Call where
  | syncGetDepth
  | writeDepth
  | syncStop
  | syncGetVideo
  | writeVideo
  | v4l2WriteFrame
  | pwPushFrame
  | restartWirePlumber
  | usleep (usec : Nat)
deriving DecidableEq

/-- The locals that outlive an iteration, and the static `wp_restarted`. -/
structure State where
  consecutiveErrors : Int32
  deviceOk : Bool
  wasMotorPaused : Bool
  wpRestarted : Bool

def State.initial : State where
  consecutiveErrors := 0
  deviceOk := true
  wasMotorPaused := false
  wpRestarted := false

/-- The part of an iteration from the poll of the video on. -/
def pollVideo (streams : Streams) (state : State) (video : SyncFrame) : State × List Call :=
  if video.status = 0 then
    let v4l2 := video.data && decide (0 ≤ streams.v4l2Fd)
    let restarts := !state.wpRestarted && v4l2
    ({ state with wpRestarted := state.wpRestarted || v4l2 },
      [.syncGetVideo] ++
        (if video.data && streams.videoShm then [.writeVideo] else []) ++
        (if v4l2 then [.v4l2WriteFrame] else []) ++
        (if video.data then [.pwPushFrame] else []) ++
        (if restarts then [.restartWirePlumber] else []) ++
        [.usleep 30000])
  else
    (state, [.syncGetVideo, .usleep 30000])

/-- What the first poll after a motor pause does before it polls. -/
def resume (state : State) : State × List Call :=
  if state.wasMotorPaused then
    ({ state with wasMotorPaused := false, consecutiveErrors := 0 }, [.usleep 2000000])
  else
    (state, [])

/-- The poll of the depth, and what follows it. -/
def pollDepth (streams : Streams) (state : State) (depth video : SyncFrame) :
    State × List Call :=
  if depth.status = 0 then
    let stored : List Call :=
      if depth.data && streams.depthShm then [.writeDepth] else []
    let polled :=
      pollVideo streams { state with consecutiveErrors := 0, deviceOk := true } video
    (polled.1, .syncGetDepth :: stored ++ polled.2)
  else
    let failed := { state with consecutiveErrors := state.consecutiveErrors + 1 }
    if 30 < failed.consecutiveErrors then
      ({ failed with deviceOk := false, consecutiveErrors := 0 },
        .syncGetDepth :: (if failed.deviceOk then [.syncStop] else []) ++ [.usleep 2000000])
    else
      let polled := pollVideo streams failed video
      (polled.1, .syncGetDepth :: polled.2)

/-- The loop of `k4w_kinect_run`, with the calls of each iteration. -/
def kinectRun (streams : Streams) : Loop State Observed (List Call) where
  initial := .initial
  step := fun state observed =>
    match observed with
    | .motorPaused => ({ state with wasMotorPaused := true }, [.usleep 100000])
    | .polled depth video =>
        let resumed := resume state
        let polled := pollDepth streams resumed.1 depth video
        (polled.1, resumed.2 ++ polled.2)

/-! ## What the loop should count -/

def depthFailed : Observed → Bool
  | .motorPaused => false
  | .polled depth _ => depth.status != 0

def depthSucceeded : Observed → Bool
  | .motorPaused => false
  | .polled depth _ => depth.status == 0

/--
The past ends with the 31st failed poll in a row, counted from its beginning or
from the latest of a success, a motor pause, and another such failure.
-/
inductive EndsWith31st : List Observed → Prop where
  | afterOther {front row : List Observed}
      (hother : ∀ last ∈ front.getLast?, depthFailed last = false)
      (hlength : row.length = 31) (hfailed : ∀ observed ∈ row, depthFailed observed = true) :
      EndsWith31st (front ++ row)
  | afterPrevious {front row : List Observed} (hprevious : EndsWith31st front)
      (hlength : row.length = 31) (hfailed : ∀ observed ∈ row, depthFailed observed = true) :
      EndsWith31st (front ++ row)

/-- How many polls in a row failed at the end of the past. -/
def failuresInRow (past : List Observed) : Nat :=
  (latestRow depthFailed past).length

theorem endsWith31st_of_row {front : List Observed} (hfront : latestRow depthFailed front = [])
    (blocks : Nat) : ∀ row : List Observed, row.length = 31 * (blocks + 1) →
      (∀ observed ∈ row, depthFailed observed = true) → EndsWith31st (front ++ row) := by
  induction blocks with
  | zero => exact fun row hlength hfailed =>
      .afterOther (latestRow_eq_nil_iff.mp hfront) hlength hfailed
  | succ blocks ih =>
      intro row hlength hfailed
      have hprevious := ih (row.take (31 * (blocks + 1)))
        (by rw [List.length_take, hlength]; omega)
        (fun observed hmem => hfailed observed (List.mem_of_mem_take hmem))
      have hends := @EndsWith31st.afterPrevious _ (row.drop (31 * (blocks + 1))) hprevious
        (by rw [List.length_drop, hlength]; omega)
        (fun observed hmem => hfailed observed (List.mem_of_mem_drop hmem))
      rwa [List.append_assoc, List.take_append_drop] at hends

/-- Every 31st failed poll of a row ends one of the rows that are counted. -/
theorem endsWith31st_iff {past : List Observed} :
    EndsWith31st past ↔ 0 < failuresInRow past ∧ failuresInRow past % 31 = 0 := by
  constructor
  · intro hends
    induction hends with
    | afterOther hother hlength hfailed =>
        rw [failuresInRow, latestRow_append_of_all hfailed, latestRow_eq_nil_iff.mpr hother,
          List.append_nil, List.length_reverse, hlength]
        decide
    | afterPrevious hprevious hlength hfailed ih =>
        rw [failuresInRow] at ih ⊢
        rw [latestRow_append_of_all hfailed, List.length_append, List.length_reverse, hlength]
        omega
  · rintro ⟨hpos, hmultiple⟩
    obtain ⟨front, hpast, hfront⟩ := @exists_before_latestRow _ depthFailed past
    have hlength : (latestRow depthFailed past).reverse.length =
        31 * ((failuresInRow past - 31) / 31 + 1) := by
      rw [List.length_reverse, ← failuresInRow]
      omega
    rw [hpast]
    exact endsWith31st_of_row hfront _ _ hlength
      fun observed hmem => mem_latestRow (List.mem_reverse.mp hmem)

/-! ## What an iteration does -/

section Step

variable (streams : Streams)

/-- Polling the video leaves the counting to the poll of the depth. -/
theorem pollVideo_state (state : State) (video : SyncFrame) :
    (pollVideo streams state video).1.consecutiveErrors = state.consecutiveErrors ∧
      (pollVideo streams state video).1.deviceOk = state.deviceOk ∧
      (pollVideo streams state video).1.wasMotorPaused = state.wasMotorPaused := by
  unfold pollVideo
  split <;> exact ⟨rfl, rfl, rfl⟩

theorem pollVideo_calls (state : State) (video : SyncFrame) :
    .syncGetVideo ∈ (pollVideo streams state video).2 ∧
      .syncStop ∉ (pollVideo streams state video).2 := by
  unfold pollVideo
  split
  · simp only [List.mem_append, List.mem_singleton, true_or, true_and]
    simp [apply_ite (Call.syncStop ∈ ·)]
  · simp

/-- What a poll of the depth leaves for the next one. -/
structure Leaves (state : State) (errors : Nat) (deviceOk : Bool) : Prop where
  errors : state.consecutiveErrors = Int32.ofNat errors
  deviceOk : state.deviceOk = deviceOk
  resumed : state.wasMotorPaused = false

theorem Leaves.pollVideo {state : State} {errors : Nat} {deviceOk : Bool}
    (hleaves : Leaves state errors deviceOk) (video : SyncFrame) :
    Leaves (pollVideo streams state video).1 errors deviceOk := by
  obtain ⟨herrors, hdeviceOk, hresumed⟩ := pollVideo_state streams state video
  exact ⟨herrors.trans hleaves.errors, hdeviceOk.trans hleaves.deviceOk,
    hresumed.trans hleaves.resumed⟩

section Poll

variable {state : State} {depth video : SyncFrame} {errors : Nat} {deviceOk : Bool}

theorem Leaves.success (hleaves : Leaves state errors deviceOk) (hstatus : depth.status = 0) :
    let result := pollDepth streams state depth video
    Leaves result.1 0 true ∧ .syncGetVideo ∈ result.2 ∧ .syncStop ∉ result.2 := by
  obtain ⟨hvideo, hstop⟩ :=
    pollVideo_calls streams { state with consecutiveErrors := 0, deviceOk := true } video
  simp only [pollDepth, if_pos hstatus]
  refine ⟨?_, List.mem_append_right _ hvideo, ?_⟩
  · apply Leaves.pollVideo
    exact ⟨rfl, rfl, hleaves.resumed⟩
  · split <;> simpa using hstop

/-- One more failed poll, unless it is the 31st. -/
theorem Leaves.failure (hleaves : Leaves state errors deviceOk) (hstatus : depth.status ≠ 0)
    (hfew : errors < 30) :
    let result := pollDepth streams state depth video
    Leaves result.1 (errors + 1) deviceOk ∧ .syncGetVideo ∈ result.2 ∧
      .syncStop ∉ result.2 := by
  have hnext : state.consecutiveErrors + 1 = Int32.ofNat (errors + 1) := by
    rw [hleaves.errors, Int32.ofNat_add]
    rfl
  have hnot : ¬(30 : Int32) < state.consecutiveErrors + 1 := by
    have hthirty : (30 : Int32).toInt = 30 := rfl
    rw [hnext, Int32.lt_iff_toInt_lt, CInt.toInt_ofNat_eq (by omega), hthirty]
    omega
  obtain ⟨hvideo, hstop⟩ := pollVideo_calls streams
    { state with consecutiveErrors := state.consecutiveErrors + 1 } video
  simp only [pollDepth, if_neg hstatus, if_neg hnot]
  refine ⟨?_, List.mem_cons_of_mem _ hvideo, by simpa using hstop⟩
  apply Leaves.pollVideo
  exact ⟨hnext, hleaves.deviceOk, hleaves.resumed⟩

/-- The 31st failed poll gives the device up. -/
theorem Leaves.gaveUp (hleaves : Leaves state 30 deviceOk) (hstatus : depth.status ≠ 0) :
    let result := pollDepth streams state depth video
    Leaves result.1 0 false ∧ (.syncStop ∈ result.2 → deviceOk = true) := by
  have hmany : (30 : Int32) < state.consecutiveErrors + 1 := by
    rw [hleaves.errors]
    decide
  simp only [pollDepth, if_neg hstatus, if_pos hmany]
  refine ⟨⟨rfl, rfl, hleaves.resumed⟩, fun hstop => ?_⟩
  cases hok : deviceOk with
  | true => rfl
  | false => simp [hleaves.deviceOk, hok] at hstop

end Poll

end Step

/-! ## Runs -/

/-- How the state counts the past. -/
structure Counts (past : List Observed) (state : State) : Prop where
  errors : ∃ errors ≤ 30, state.consecutiveErrors = Int32.ofNat errors ∧
    (state.wasMotorPaused = false → errors = failuresInRow past % 31)
  paused : state.wasMotorPaused = true → failuresInRow past = 0

section Run

variable {streams : Streams} {past : List Observed} {state : State}

theorem Counts.resume (hcounts : Counts past state) :
    Leaves (resume state).1 (failuresInRow past % 31) state.deviceOk ∧
      .syncStop ∉ (resume state).2 := by
  obtain ⟨errors, -, herrors, hrow⟩ := hcounts.errors
  unfold DeviceLoss.resume
  cases hpaused : state.wasMotorPaused with
  | true =>
      rw [if_pos rfl, hcounts.paused hpaused]
      exact ⟨⟨rfl, rfl, rfl⟩, by simp⟩
  | false =>
      rw [if_neg (by decide), ← hrow hpaused]
      exact ⟨⟨herrors, rfl, hpaused⟩, List.not_mem_nil⟩

variable (streams) in
/-- What an iteration does after a past: a pause, a success, a failure, or the 31st one. -/
theorem Counts.step_cases (hcounts : Counts past state) (observed : Observed) :
    let result := (kinectRun streams).step state observed
    (observed = .motorPaused ∧
        result = ({ state with wasMotorPaused := true }, [.usleep 100000])) ∨
      (depthSucceeded observed = true ∧ Leaves result.1 0 true ∧
        .syncGetVideo ∈ result.2 ∧ .syncStop ∉ result.2) ∨
      (depthFailed observed = true ∧ failuresInRow past % 31 < 30 ∧
        Leaves result.1 (failuresInRow past % 31 + 1) state.deviceOk ∧
        .syncGetVideo ∈ result.2 ∧ .syncStop ∉ result.2) ∨
      (depthFailed observed = true ∧ failuresInRow past % 31 = 30 ∧ Leaves result.1 0 false ∧
        (.syncStop ∈ result.2 → state.deviceOk = true)) := by
  intro result
  cases observed with
  | motorPaused => exact .inl ⟨rfl, rfl⟩
  | polled depth video =>
      right
      obtain ⟨hleaves, hnoStop⟩ := hcounts.resume
      have hvideo : .syncGetVideo ∈ (pollDepth streams (DeviceLoss.resume state).1 depth video).2 →
          .syncGetVideo ∈ result.2 := List.mem_append_right _
      have hstop : .syncStop ∈ result.2 →
          .syncStop ∈ (pollDepth streams (DeviceLoss.resume state).1 depth video).2 :=
        fun hmem => (List.mem_append.mp hmem).resolve_left hnoStop
      by_cases hstatus : depth.status = 0
      · left
        obtain ⟨hnext, hpolled, hnot⟩ := hleaves.success streams hstatus
        exact ⟨by simp [depthSucceeded, hstatus], hnext, hvideo hpolled, fun h => hnot (hstop h)⟩
      · right
        have hfailed : depthFailed (.polled depth video) = true := by
          simp [depthFailed, hstatus]
        have hlt := Nat.mod_lt (failuresInRow past) (show 0 < 31 by decide)
        rcases Nat.lt_or_ge (failuresInRow past % 31) 30 with hfew | hmany
        · left
          obtain ⟨hnext, hpolled, hnot⟩ := hleaves.failure streams hstatus hfew
          exact ⟨hfailed, hfew, hnext, hvideo hpolled, fun h => hnot (hstop h)⟩
        · right
          have hthirty : failuresInRow past % 31 = 30 := by omega
          rw [hthirty] at hleaves
          obtain ⟨hnext, hok⟩ := hleaves.gaveUp streams hstatus
          exact ⟨hfailed, hthirty, hnext, fun h => hok (hstop h)⟩

theorem depthFailed_of_succeeded {observed : Observed}
    (hsuccess : depthSucceeded observed = true) : depthFailed observed = false := by
  cases observed with
  | motorPaused => rfl
  | polled depth video => simpa [depthFailed, depthSucceeded] using hsuccess

theorem failuresInRow_failed {observed : Observed} (hfailed : depthFailed observed = true) :
    failuresInRow (past ++ [observed]) = failuresInRow past + 1 := by
  simp [failuresInRow, hfailed]

theorem failuresInRow_other {observed : Observed} (hfailed : depthFailed observed = false) :
    failuresInRow (past ++ [observed]) = 0 := by
  simp [failuresInRow, hfailed]

theorem Leaves.counts {errors : Nat} {deviceOk : Bool} (hleaves : Leaves state errors deviceOk)
    (herrors : errors = failuresInRow past % 31) : Counts past state := by
  refine ⟨⟨errors, by omega, hleaves.errors, fun _ => herrors⟩, fun hpaused => ?_⟩
  rw [hleaves.resumed] at hpaused
  cases hpaused

/-- Every iteration keeps the count. -/
theorem Counts.next (hcounts : Counts past state) (observed : Observed) :
    Counts (past ++ [observed]) ((kinectRun streams).next state observed) := by
  rcases hcounts.step_cases streams observed with
    ⟨rfl, hresult⟩ | ⟨hsuccess, hleaves, -⟩ | ⟨hfailed, hfew, hleaves, -⟩ |
      ⟨hfailed, hthirty, hleaves, -⟩
  · obtain ⟨errors, hle, herrors, -⟩ := hcounts.errors
    rw [Loop.next, hresult]
    exact ⟨⟨errors, hle, herrors, fun hpaused => by cases hpaused⟩,
      fun _ => failuresInRow_other rfl⟩
  · apply hleaves.counts
    rw [failuresInRow_other (depthFailed_of_succeeded hsuccess)]
  · apply hleaves.counts
    rw [failuresInRow_failed hfailed]
    omega
  · apply hleaves.counts
    rw [failuresInRow_failed hfailed]
    omega

theorem counts_state (past : List Observed) : Counts past ((kinectRun streams).state past) := by
  apply Loop.state_of_past
  · exact ⟨⟨0, by decide, rfl, fun _ => rfl⟩, fun _ => rfl⟩
  · exact fun observed hcounts => hcounts.next observed

/-- Only the 31st failure in a row stops the streams, of a device that is not given up. -/
theorem Counts.syncStop (hcounts : Counts past state) {observed : Observed}
    (hstop : .syncStop ∈ (kinectRun streams).output state observed) :
    EndsWith31st (past ++ [observed]) ∧ state.deviceOk = true ∧
      ((kinectRun streams).next state observed).deviceOk = false := by
  rcases hcounts.step_cases streams observed with
    ⟨rfl, hresult⟩ | ⟨-, -, -, hnot⟩ | ⟨-, -, -, -, hnot⟩ | ⟨hfailed, hthirty, hleaves, hok⟩
  · rw [Loop.output, hresult] at hstop
    exact absurd hstop (by simp)
  · exact absurd hstop hnot
  · exact absurd hstop hnot
  · refine ⟨endsWith31st_iff.mpr ?_, hok hstop, hleaves.deviceOk⟩
    rw [failuresInRow_failed hfailed]
    omega

/-- A device that was given up stays so until a depth poll succeeds. -/
theorem deviceOk_of_no_success {past middle : List Observed}
    (hgone : ((kinectRun streams).state past).deviceOk = false)
    (hmiddle : ∀ observed ∈ middle, depthSucceeded observed = false) :
    ((kinectRun streams).state (past ++ middle)).deviceOk = false := by
  induction middle using List.reverseRecOn with
  | nil => rwa [List.append_nil]
  | append_singleton middle observed ih =>
      have hbefore := ih fun other hmem => hmiddle other (List.mem_append_left _ hmem)
      have hnot : depthSucceeded observed = false := hmiddle observed (by simp)
      rw [← List.append_assoc, Loop.state_append]
      rcases (counts_state (past ++ middle)).step_cases streams observed with
        ⟨rfl, hresult⟩ | ⟨hsuccess, -⟩ | ⟨-, -, hleaves, -⟩ | ⟨-, -, hleaves, -⟩
      · rw [Loop.next, hresult]
        exact hbefore
      · rw [hsuccess] at hnot
        cases hnot
      · exact hleaves.deviceOk.trans hbefore
      · exact hleaves.deviceOk

/-- The video is polled in every iteration but a pause and a 31st failure. -/
theorem Counts.syncGetVideo (hcounts : Counts past state) {observed : Observed}
    (hpolled : observed ≠ .motorPaused) (hnot : ¬EndsWith31st (past ++ [observed])) :
    .syncGetVideo ∈ (kinectRun streams).output state observed := by
  rcases hcounts.step_cases streams observed with
    ⟨hpaused, -⟩ | ⟨-, -, hvideo, -⟩ | ⟨-, -, -, hvideo, -⟩ | ⟨hfailed, hthirty, -⟩
  · exact absurd hpaused hpolled
  · exact hvideo
  · exact hvideo
  · refine absurd (endsWith31st_iff.mpr ?_) hnot
    rw [failuresInRow_failed hfailed]
    omega

end Run

/--
In every run of the loop the counter is between 0 and 30 at its head, only the
31st failure in a row stops the streams, a success lies between any two such
stops, and the video is polled in all other iterations without a motor pause.
-/
theorem detectsLoss_of_kinectRun (streams : Streams) :
    let loop := kinectRun streams
    (∀ past, 0 ≤ (loop.state past).consecutiveErrors.toInt ∧
        (loop.state past).consecutiveErrors.toInt ≤ 30) ∧
      (∀ past observed, .syncStop ∈ loop.output (loop.state past) observed →
        EndsWith31st (past ++ [observed])) ∧
      (∀ past first middle last, .syncStop ∈ loop.output (loop.state past) first →
        .syncStop ∈ loop.output (loop.state (past ++ [first] ++ middle)) last →
        ∃ observed ∈ middle, depthSucceeded observed = true) ∧
      ∀ past observed, observed ≠ .motorPaused → ¬EndsWith31st (past ++ [observed]) →
        .syncGetVideo ∈ loop.output (loop.state past) observed := by
  intro loop
  refine ⟨?_, ?_, ?_, ?_⟩
  · intro past
    obtain ⟨errors, hle, herrors, -⟩ := (@counts_state streams past).errors
    rw [herrors, CInt.toInt_ofNat_eq (by omega)]
    omega
  · exact fun past observed hstop => ((counts_state past).syncStop hstop).1
  · intro past first middle last hfirst hlast
    by_contra hnone
    have hgone : (loop.state (past ++ [first])).deviceOk = false := by
      rw [Loop.state_append]
      exact ((counts_state past).syncStop hfirst).2.2
    have hmiddle : ∀ observed ∈ middle, depthSucceeded observed = false := by
      intro observed hmem
      exact Bool.eq_false_iff.mpr fun hsuccess => hnone ⟨observed, hmem, hsuccess⟩
    have hstill := deviceOk_of_no_success hgone hmiddle
    have hok := ((counts_state (past ++ [first] ++ middle)).syncStop hlast).2.1
    rw [hstill] at hok
    cases hok
  · exact fun past observed hpolled hnot => (counts_state past).syncGetVideo hpolled hnot

end K4W.Daemon.DeviceLoss
