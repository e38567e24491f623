import Mathlib.Data.Int.Basic

/-!
# USB sessions of the motor

Each motor function opens the audio device, exchanges command packets with it,
and closes it again.  What libusb answers is an input of the functions; the
calls they make, with the answers, are recorded in a session.
-/

namespace K4W.Motor

/-! ## Packets and transfers -/

def motorMagicCmd : UInt32 := 0x06022009
def cmdSetTilt : UInt32 := 0x803b
def cmdSetLed : UInt32 := 0x10
def cmdGetAccel : UInt32 := 0x8032

structure MotorCmd where
  magic : UInt32
  tag : UInt32
  arg1 : UInt32
  cmd : UInt32
  arg2 : UInt32
deriving DecidableEq

/--
What one `libusb_bulk_transfer` does: its result, the count it stores in
`*transferred` unless it leaves it alone, and the buffer after it.
-/
structure Xfer where
  rc : Int32
  transferred : Option Int32
  data : Nat → UInt8

/-- `*transferred` after the transfer. -/
def Xfer.count (xfer : Xfer) (before : Int32) : Int32 :=
  xfer.transferred.getD before

/-- The `int32_t` that `memcpy` takes from four bytes of a buffer. -/
def int32At (data : Nat → UInt8) (offset : Nat) : Int32 :=
  let word := (data offset).toUInt32 ||| (data (offset + 1)).toUInt32 <<< 8 |||
    (data (offset + 2)).toUInt32 <<< 16 ||| (data (offset + 3)).toUInt32 <<< 24
  word.toInt32

/-- A call of libusb with its answer. -/
inductive UsbCall where
  | openDevice (found : Bool)
  | kernelDriverActive (interface : Nat) (result : Int32)
  | detachKernelDriver (interface : Nat)
  | claimInterface (interface : Nat) (result : Int32)
  | releaseInterface (interface : Nat)
  | bulkOut (packet : MotorCmd) (length : Nat) (result : Xfer)
  | bulkIn (result : Xfer)
  | close

/-- One motor function: whether it got a device, and its calls in order. -/
structure Session where
  opened : Bool
  calls : List UsbCall

/-! ## Opening and closing -/

/-- The answers to `motor_open_device`, by interface and by attempt. -/
structure OpenAnswers where
  found : Bool
  kernelDriverActive : Nat → Int32
  claims : Nat → Int32 × Int32

def detachCalls (answers : OpenAnswers) (interface : Nat) : List UsbCall :=
  let active := answers.kernelDriverActive interface
  [.kernelDriverActive interface active] ++
    (if active = 1 then [.detachKernelDriver interface] else []) ++
    [.detachKernelDriver interface]

/-- The retry loop from an attempt on: whether both interfaces are claimed, and the calls. -/
def claimLoop (answers : OpenAnswers) : Nat → Nat → Bool × List UsbCall
  | 0, _ => (false, [])
  | remaining + 1, attempt =>
      let (r0, r1) := answers.claims attempt
      let claims : List UsbCall := [.claimInterface 0 r0, .claimInterface 1 r1]
      if r0 = 0 ∧ r1 = 0 then
        (true, claims)
      else
        let rest := claimLoop answers remaining (attempt + 1)
        (rest.1, claims ++ (if r0 = 0 then [.releaseInterface 0] else []) ++
          (if r1 = 0 then [.releaseInterface 1] else []) ++ rest.2)

/-- `motor_open_device`: the session is open when it returns a handle. -/
def motorOpenDevice (answers : OpenAnswers) : Session :=
  if !answers.found then
    { opened := false, calls := [.openDevice false] }
  else
    let detached := (List.range 4).flatMap (detachCalls answers)
    let claimed := claimLoop answers 5 0
    if claimed.1 then
      { opened := true, calls := [.openDevice true] ++ detached ++ claimed.2 }
    else
      { opened := false, calls := [.openDevice true] ++ detached ++ claimed.2 ++ [.close] }

/-- The calls of `motor_close_device` on a handle. -/
def motorCloseDevice : List UsbCall :=
  [.releaseInterface 1, .releaseInterface 0, .close]

/-- A session that goes on after the device was opened. -/
def Session.extend (session : Session) (calls : List UsbCall) : Session :=
  { session with calls := session.calls ++ calls }

/-! ## What a session shows -/

/-- Some bulk OUT transfer of the calls returned an error. -/
def OutFailed (calls : List UsbCall) : Prop :=
  ∃ packet length result, .bulkOut packet length result ∈ calls ∧ result.rc ≠ 0

/-- The read right after the first packet with this command. -/
def responseTo (cmd : UInt32) : List UsbCall → Option Xfer
  | .bulkOut packet _ _ :: .bulkIn result :: rest =>
      if packet.cmd = cmd then some result else responseTo cmd rest
  | _ :: rest => responseTo cmd rest
  | [] => none

def isTransfer : UsbCall → Bool
  | .bulkOut _ _ _ | .bulkIn _ => true
  | _ => false

/-- None of the calls transfers data. -/
def NoTransfer (calls : List UsbCall) : Prop :=
  ∀ call ∈ calls, isTransfer call = false

theorem noTransfer_append {front back : List UsbCall} (hfront : NoTransfer front)
    (hback : NoTransfer back) : NoTransfer (front ++ back) := by
  intro call hcall
  rcases List.mem_append.mp hcall with hmem | hmem
  · exact hfront call hmem
  · exact hback call hmem

theorem noTransfer_singleton {call : UsbCall} (hcall : isTransfer call = false) :
    NoTransfer [call] := by
  intro other hother
  rw [List.mem_singleton.mp hother]
  exact hcall

theorem noTransfer_optional {call : UsbCall} (hcall : isTransfer call = false)
    (condition : Prop) [Decidable condition] :
    NoTransfer (if condition then [call] else []) := by
  split
  · exact noTransfer_singleton hcall
  · exact fun _ hother => absurd hother List.not_mem_nil

theorem noTransfer_detachCalls (answers : OpenAnswers) (interface : Nat) :
    NoTransfer (detachCalls answers interface) :=
  noTransfer_append (noTransfer_append (noTransfer_singleton rfl) (noTransfer_optional rfl _))
    (noTransfer_singleton rfl)

theorem noTransfer_claimLoop (answers : OpenAnswers) (remaining attempt : Nat) :
    NoTransfer (claimLoop answers remaining attempt).2 := by
  induction remaining generalizing attempt with
  | zero => exact fun _ hcall => absurd hcall List.not_mem_nil
  | succ remaining ih =>
      have hclaims : NoTransfer [.claimInterface 0 (answers.claims attempt).1,
          .claimInterface 1 (answers.claims attempt).2] :=
        noTransfer_append (noTransfer_singleton rfl) (noTransfer_singleton rfl)
      simp only [claimLoop]
      split
      · exact hclaims
      · exact noTransfer_append (noTransfer_append (noTransfer_append hclaims
          (noTransfer_optional rfl _)) (noTransfer_optional rfl _)) (ih (attempt + 1))

/-- Opening the device transfers nothing, whether it succeeds or not. -/
theorem noTransfer_motorOpenDevice (answers : OpenAnswers) :
    NoTransfer (motorOpenDevice answers).calls := by
  have hopen : ∀ found, NoTransfer [.openDevice found] := fun _ => noTransfer_singleton rfl
  have hclose : NoTransfer [.close] := noTransfer_singleton rfl
  have hdetach : NoTransfer ((List.range 4).flatMap (detachCalls answers)) := by
    intro call hcall
    obtain ⟨interface, -, hmem⟩ := List.mem_flatMap.mp hcall
    exact noTransfer_detachCalls answers interface call hmem
  have hclaim := noTransfer_claimLoop answers 5 0
  unfold motorOpenDevice
  split
  · exact hopen false
  · dsimp only
    split
    · exact noTransfer_append (noTransfer_append (hopen true) hdetach) hclaim
    · exact noTransfer_append (noTransfer_append (noTransfer_append (hopen true) hdetach)
        hclaim) hclose

theorem outFailed_append {front back : List UsbCall} :
    OutFailed (front ++ back) ↔ OutFailed front ∨ OutFailed back := by
  simp only [OutFailed, List.mem_append, or_and_right, exists_or]

@[simp] theorem outFailed_nil : OutFailed [] ↔ False := by
  simp [OutFailed]

@[simp] theorem outFailed_bulkIn (result : Xfer) (rest : List UsbCall) :
    OutFailed (.bulkIn result :: rest) ↔ OutFailed rest := by
  simp [OutFailed]

@[simp] theorem outFailed_bulkOut (packet : MotorCmd) (length : Nat) (result : Xfer)
    (rest : List UsbCall) :
    OutFailed (.bulkOut packet length result :: rest) ↔ result.rc ≠ 0 ∨ OutFailed rest := by
  constructor
  · rintro ⟨other, otherLength, failed, hmem, hrc⟩
    rcases List.mem_cons.mp hmem with heq | hrest
    · cases heq
      exact .inl hrc
    · exact .inr ⟨other, otherLength, failed, hrest, hrc⟩
  · rintro (hrc | ⟨other, otherLength, failed, hmem, hrc⟩)
    · exact ⟨packet, length, result, List.mem_cons_self, hrc⟩
    · exact ⟨other, otherLength, failed, List.mem_cons_of_mem _ hmem, hrc⟩

theorem not_outFailed_of_noTransfer {calls : List UsbCall} (hcalls : NoTransfer calls) :
    ¬OutFailed calls := by
  rintro ⟨packet, length, result, hmem, -⟩
  exact absurd (hcalls _ hmem) (by simp [isTransfer])

theorem responseTo_append {cmd : UInt32} {front : List UsbCall} (hfront : NoTransfer front)
    (back : List UsbCall) : responseTo cmd (front ++ back) = responseTo cmd back := by
  induction front with
  | nil => rfl
  | cons call rest ih =>
      have hrest := ih fun other hmem => hfront other (List.mem_cons_of_mem _ hmem)
      have hcall := hfront call List.mem_cons_self
      cases call with
      | bulkOut packet length result => simp [isTransfer] at hcall
      | _ =>
          rw [List.cons_append, responseTo]
          · exact hrest
          · nofun

end K4W.Motor
