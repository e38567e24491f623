import K4W.Motor.Control

/-!
# Handles and interfaces

A ledger of the libusb handle that a motor function works with and of the
interfaces claimed on it.  It accepts the calls of every motor function and is
empty again when the function returns.
-/

namespace K4W.Motor

/-- Whether the handle is open, and the interfaces claimed on it. -/
structure Ledger where
  isOpen : Bool
  claimed : List Nat
deriving DecidableEq, Repr

/-- Nothing is open and nothing is claimed. -/
def Ledger.empty : Ledger where
  isOpen := false
  claimed := []

/--
What a call does to the ledger.  It refuses a second open handle, every use of
a closed one, a second claim, a release without a claim, and a close before the
releases.
-/
def Ledger.enter (ledger : Ledger) : UsbCall → Option Ledger
  | .openDevice found =>
      if ledger.isOpen then none else some { ledger with isOpen := found }
  | .claimInterface interface result =>
      if !ledger.isOpen || ledger.claimed.contains interface then none
      else if result = 0 then some { ledger with claimed := interface :: ledger.claimed }
      else some ledger
  | .releaseInterface interface =>
      if ledger.isOpen && ledger.claimed.contains interface then
        some { ledger with claimed := ledger.claimed.erase interface }
      else
        none
  | .close =>
      if ledger.isOpen && ledger.claimed.isEmpty then some .empty else none
  | .kernelDriverActive _ _ | .detachKernelDriver _ | .bulkOut _ _ _ | .bulkIn _ =>
      if ledger.isOpen then some ledger else none

/-- The ledger after the calls, if it accepts all of them. -/
def Ledger.after (ledger : Ledger) : List UsbCall → Option Ledger
  | [] => some ledger
  | call :: rest => (ledger.enter call).bind fun next => next.after rest

/-- The calls give back everything that they took. -/
def Balanced (calls : List UsbCall) : Prop :=
  Ledger.empty.after calls = some .empty

instance (calls : List UsbCall) : Decidable (Balanced calls) :=
  inferInstanceAs (Decidable (_ = _))

theorem Ledger.after_append (ledger : Ledger) (front back : List UsbCall) :
    ledger.after (front ++ back) = (ledger.after front).bind fun next => next.after back := by
  induction front generalizing ledger with
  | nil => rfl
  | cons call rest ih =>
      rw [List.cons_append, Ledger.after, Ledger.after]
      cases ledger.enter call with
      | none => rfl
      | some next => exact ih next

/-- Calls that leave the ledger as it is. -/
theorem Ledger.after_of_keeps {ledger : Ledger} {calls : List UsbCall}
    (hkeeps : ∀ call ∈ calls, ledger.enter call = some ledger) :
    ledger.after calls = some ledger := by
  induction calls with
  | nil => rfl
  | cons call rest ih =>
      have hrest := ih fun other hmem => hkeeps other (List.mem_cons_of_mem _ hmem)
      rw [Ledger.after, hkeeps call List.mem_cons_self]
      exact hrest

/-! ## Handles opened and closed -/

def isOpening : UsbCall → Bool
  | .openDevice found => found
  | _ => false

def isClosing : UsbCall → Bool
  | .close => true
  | _ => false

/-- The handles open before and opened during the calls are those closed and open after. -/
theorem Ledger.after_counts {ledger last : Ledger} {calls : List UsbCall}
    (hafter : ledger.after calls = some last) :
    calls.countP isOpening + ledger.isOpen.toNat =
      calls.countP isClosing + last.isOpen.toNat := by
  induction calls generalizing ledger with
  | nil =>
      cases hafter
      rfl
  | cons call rest ih =>
      obtain ⟨next, henter, hrest⟩ := Option.bind_eq_some_iff.mp hafter
      have hcounts := ih hrest
      have hcall : (isOpening call).toNat + ledger.isOpen.toNat =
          (isClosing call).toNat + next.isOpen.toNat := by
        cases call with
        | openDevice found =>
            simp only [Ledger.enter] at henter
            split at henter
            case isTrue => cases henter
            case isFalse hclosed =>
                cases henter
                rw [Bool.eq_false_iff.mpr hclosed]
                exact (Nat.zero_add found.toNat).symm
        | claimInterface interface result =>
            simp only [Ledger.enter] at henter
            split at henter
            · cases henter
            · split at henter <;> cases henter <;> rfl
        | close =>
            simp only [Ledger.enter] at henter
            split at henter
            case isTrue hopen =>
                cases henter
                rw [(Bool.and_eq_true_iff.mp hopen).1]
                rfl
            case isFalse => cases henter
        | releaseInterface interface | kernelDriverActive interface result
        | detachKernelDriver interface | bulkOut packet length result | bulkIn result =>
            simp only [Ledger.enter] at henter
            split at henter
            · cases henter
              rfl
            · cases henter
      have hnat : ∀ b : Bool, (if b = true then 1 else 0) = b.toNat := by decide
      rw [List.countP_cons, List.countP_cons, hnat, hnat]
      omega

/-- Balanced calls close as many handles as they open. -/
theorem Balanced.counts {calls : List UsbCall} (hbalanced : Balanced calls) :
    calls.countP isOpening = calls.countP isClosing :=
  Ledger.after_counts hbalanced

/-! ## Opening -/

/-- An open handle with nothing claimed. -/
def Ledger.opened : Ledger where
  isOpen := true
  claimed := []

/-- An open handle with the interfaces of the motor. -/
def Ledger.holding : Ledger where
  isOpen := true
  claimed := [1, 0]

theorem after_detachCalls (answers : OpenAnswers) (interface : Nat) :
    Ledger.opened.after (detachCalls answers interface) = some .opened := by
  refine Ledger.after_of_keeps fun call hmem => ?_
  simp only [detachCalls, List.mem_append, List.mem_singleton] at hmem
  rcases hmem with (rfl | hdetach) | rfl
  · rfl
  · split at hdetach
    · rw [List.mem_singleton.mp hdetach]
      rfl
    · cases hdetach
  · rfl

theorem after_detachAll (answers : OpenAnswers) (interfaces : List Nat) :
    Ledger.opened.after (interfaces.flatMap (detachCalls answers)) = some .opened := by
  induction interfaces with
  | nil => rfl
  | cons interface rest ih =>
      rw [List.flatMap_cons, Ledger.after_append, after_detachCalls]
      exact ih

/-- A round of the retry loop: both interfaces, or none after the releases. -/
theorem after_claims (r0 r1 : Int32) :
    Ledger.opened.after ([.claimInterface 0 r0, .claimInterface 1 r1] ++
        (if r0 = 0 ∧ r1 = 0 then [] else
          (if r0 = 0 then [.releaseInterface 0] else []) ++
            (if r1 = 0 then [.releaseInterface 1] else []))) =
      some (if r0 = 0 ∧ r1 = 0 then .holding else .opened) := by
  by_cases h0 : r0 = 0 <;> by_cases h1 : r1 = 0 <;>
    simp [h0, h1, Ledger.after, Ledger.enter, Ledger.opened, Ledger.holding]

/-- The retry loop ends with both interfaces or with none. -/
theorem after_claimLoop (answers : OpenAnswers) (remaining attempt : Nat) :
    Ledger.opened.after (claimLoop answers remaining attempt).2 =
      some (if (claimLoop answers remaining attempt).1 then .holding else .opened) := by
  induction remaining generalizing attempt with
  | zero => rfl
  | succ remaining ih =>
      have hround := after_claims (answers.claims attempt).1 (answers.claims attempt).2
      simp only [claimLoop]
      split
      case isTrue hboth =>
          rw [if_pos hboth, if_pos hboth, List.append_nil] at hround
          exact hround
      case isFalse hnot =>
          rw [if_neg hnot, if_neg hnot, ← List.append_assoc] at hround
          rw [Ledger.after_append, hround]
          exact ih (attempt + 1)

/-- `motor_open_device` returns a handle with both interfaces, or leaves nothing. -/
theorem after_motorOpenDevice (answers : OpenAnswers) :
    Ledger.empty.after (motorOpenDevice answers).calls =
      some (if (motorOpenDevice answers).opened then .holding else .empty) := by
  have hopen : ∀ calls, Ledger.empty.after ([.openDevice true] ++ calls) =
      Ledger.opened.after calls := fun _ => rfl
  have hdetach := after_detachAll answers (List.range 4)
  have hclaim := after_claimLoop answers 5 0
  unfold motorOpenDevice
  split
  · rfl
  · dsimp only
    split
    case isTrue hclaimed =>
        rw [if_pos hclaimed] at hclaim
        rw [List.append_assoc, hopen, Ledger.after_append, hdetach]
        exact hclaim
    case isFalse hfailed =>
        rw [if_neg hfailed] at hclaim
        rw [List.append_assoc, List.append_assoc, hopen, Ledger.after_append, hdetach,
          Option.bind_some, Ledger.after_append, hclaim]
        rfl

/-! ## The motor functions -/

theorem after_motorCloseDevice : Ledger.holding.after motorCloseDevice = some .empty := rfl

/-- A session that only transfers data between opening and closing is balanced. -/
theorem balanced_session {answers : OpenAnswers} {transfers : List UsbCall}
    (hopened : (motorOpenDevice answers).opened = true)
    (htransfers : ∀ call ∈ transfers, isTransfer call = true) :
    Balanced ((motorOpenDevice answers).extend (transfers ++ motorCloseDevice)).calls := by
  have hopen := after_motorOpenDevice answers
  rw [if_pos hopened] at hopen
  have hkeeps : Ledger.holding.after transfers = some .holding := by
    refine Ledger.after_of_keeps fun call hmem => ?_
    have hcall := htransfers call hmem
    cases call with
    | bulkOut packet length result => rfl
    | bulkIn result => rfl
    | _ => cases hcall
  rw [Balanced, Session.extend, Ledger.after_append, hopen, Option.bind_some,
    Ledger.after_append, hkeeps]
  exact after_motorCloseDevice

/-- A device that cannot be opened leaves nothing behind. -/
theorem balanced_unopened {answers : OpenAnswers}
    (hopened : (motorOpenDevice answers).opened = false) :
    Balanced (motorOpenDevice answers).calls := by
  have hopen := after_motorOpenDevice answers
  rw [hopened] at hopen
  exact hopen

/-- What a motor function leaves: the lock free, and its session balanced. -/
structure Called.Released (called : Called) : Prop where
  unlocked : called.motor.locked = false
  balanced : Balanced called.session.calls

theorem k4wMotorSetLed_released (motor : MotorState) (color : Int32) (answers : LedAnswers) :
    (k4wMotorSetLed motor color answers).Released ∧
      (k4wMotorSetLed motor color answers).motor.busy = motor.busy := by
  unfold k4wMotorSetLed
  dsimp only
  split
  case isTrue hfailed =>
      exact ⟨⟨rfl, balanced_unopened (by simpa using hfailed)⟩, rfl⟩
  case isFalse hopened =>
      exact ⟨⟨rfl, balanced_session (by simpa using hopened) (by simp [isTransfer])⟩, rfl⟩

theorem k4wMotorSetTilt_released (motor : MotorState) (angle : Double) (answers : TiltAnswers) :
    (k4wMotorSetTilt motor angle answers).Released ∧
      (k4wMotorSetTilt motor angle answers).motor.busy = 0 := by
  unfold k4wMotorSetTilt
  dsimp only
  split
  case isTrue hfailed =>
      exact ⟨⟨rfl, balanced_unopened (by simpa using hfailed)⟩, rfl⟩
  case isFalse hopened =>
      exact ⟨⟨rfl, balanced_session (by simpa using hopened) (by simp [isTransfer])⟩, rfl⟩

theorem requestAccel_released (motor : MotorState) (answers : GetAnswers) :
    (requestAccel motor answers).Released ∧
      (requestAccel motor answers).motor.busy = motor.busy := by
  unfold requestAccel
  dsimp only
  split
  case isTrue hfailed =>
      exact ⟨⟨rfl, balanced_unopened (by simpa using hfailed)⟩, rfl⟩
  case isFalse hopened =>
      have hopened : (motorOpenDevice answers.opening).opened = true := by simpa using hopened
      split
      · exact ⟨⟨rfl, balanced_session hopened (by simp [isTransfer])⟩, rfl⟩
      · split
        · exact ⟨⟨rfl, balanced_session hopened (by simp [isTransfer])⟩, rfl⟩
        · exact ⟨⟨rfl, balanced_session hopened (by simp [isTransfer])⟩, rfl⟩

theorem k4wMotorGetTilt_released (motor : MotorState) (answers : GetAnswers) (angle : Double) :
    (k4wMotorGetTilt motor answers angle).1.Released ∧
      (k4wMotorGetTilt motor answers angle).1.motor.busy = motor.busy := by
  obtain ⟨⟨hunlocked, hbalanced⟩, hbusy⟩ := requestAccel_released motor answers
  unfold k4wMotorGetTilt
  dsimp only
  split
  · exact ⟨⟨hunlocked, hbalanced⟩, hbusy⟩
  · split <;> exact ⟨⟨hunlocked, hbalanced⟩, hbusy⟩

theorem k4wMotorGetAccel_released (motor : MotorState) (answers : GetAnswers) (accel : Accel) :
    (k4wMotorGetAccel motor answers accel).1.Released ∧
      (k4wMotorGetAccel motor answers accel).1.motor.busy = motor.busy := by
  rw [k4wMotorGetAccel_called]
  exact requestAccel_released motor answers

end K4W.Motor
