import K4W.Library.Machine

/-!
# Registered devices

`m_devices` of the driver is keyed by the pointer to a device description.  The
registration thread and `tryDevice` both add an entry with a new description
and raise it as connected, and neither looks for an entry with the same URI.
-/

namespace K4W.OpenNI

open K4W.Library

/-- The fields of an `OniDeviceInfo` that the driver fills. -/
structure OniDeviceInfo where
  uri : String
  vendor : String
  name : String
  usbVendorId : UInt16
  usbProductId : UInt16
deriving DecidableEq

/-- The description of the Kinect under a URI. -/
def kinectInfo (uri : String) : OniDeviceInfo where
  uri := uri
  vendor := "Microsoft"
  name := "Kinect v1 (K4W)"
  usbVendorId := 0x045e
  usbProductId := 0x02ae

/-- An entry of `m_devices`: the pointer that is its key, what it points to, and its value. -/
structure DeviceEntry where
  key : Nat
  info : OniDeviceInfo
  device : Option Nat
deriving DecidableEq

/--
The driver.  Pointers are numbers; every allocation takes the next one.
`connected` lists the URIs that were raised by `deviceConnected`.
-/
structure Driver where
  devices : List DeviceEntry
  nextPointer : Nat
  registered : Bool
  connected : List String
deriving DecidableEq

/-- The driver after its constructor, which only starts the registration thread. -/
def Driver.constructed : Driver where
  devices := []
  nextPointer := 1
  registered := false
  connected := []

inductive OniStatus where
  | ok
  | error
deriving DecidableEq

/-! ## The operations -/

/-- The statements that `registerThreadFunc` and `tryDevice` share. -/
def addDevice (driver : Driver) (uri : String) : Driver :=
  { driver with
    devices := driver.devices ++ [⟨driver.nextPointer, kinectInfo uri, none⟩]
    nextPointer := driver.nextPointer + 1
    connected := driver.connected ++ [uri] }

/-- `shmPresent` tells whether `stat` finds the file of the video segment. -/
def registerThreadFunc (driver : Driver) (shmPresent : Bool) : Driver :=
  let driver := { driver with registered := true }
  if shmPresent then addDevice driver "k4w" else driver

def tryDevice (driver : Driver) (uri : String) (shmPresent : Bool) : Driver × OniStatus :=
  if uri ≠ "k4w" then (driver, .error)
  else if !shmPresent then (driver, .error)
  else (addDevice driver uri, .ok)

/-- Store a value under a key of `m_devices`. -/
def setDevice (key : Nat) (device : Option Nat) (devices : List DeviceEntry) :
    List DeviceEntry :=
  devices.map fun entry => if entry.key = key then { entry with device := device } else entry

section Iteration

-- The order in which an iterator goes through `m_devices`.
variable (order : List DeviceEntry → List DeviceEntry)

def deviceOpen (driver : Driver) (uri : String) : Driver × Option Nat :=
  match (order driver.devices).find? fun entry => entry.info.uri == uri with
  | none => (driver, none)
  | some entry =>
      match entry.device with
      | some device => (driver, some device)
      | none =>
          ({ driver with
            devices := setDevice entry.key (some driver.nextPointer) driver.devices
            nextPointer := driver.nextPointer + 1 }, some driver.nextPointer)

def deviceClose (driver : Driver) (device : Option Nat) : Driver :=
  match (order driver.devices).find? fun entry => entry.device == device with
  | none => driver
  | some entry => { driver with devices := setDevice entry.key none driver.devices }

end Iteration

inductive DriverCall where
  | registerThread (shmPresent : Bool)
  | tryDevice (uri : String) (shmPresent : Bool)
  | deviceOpen (uri : String)
  | deviceClose (device : Option Nat)
deriving DecidableEq

/-- The calls in any order; the registration thread runs once. -/
def driverMachine (order : List DeviceEntry → List DeviceEntry) : Machine Driver DriverCall where
  Start := fun driver => driver = .constructed
  step := fun driver call =>
    match call with
    | .registerThread shmPresent =>
        if driver.registered then none else some (registerThreadFunc driver shmPresent)
    | .tryDevice uri shmPresent => some (tryDevice driver uri shmPresent).1
    | .deviceOpen uri => some (deviceOpen order driver uri).1
    | .deviceClose device => some (deviceClose order driver device)

/-! ## One device per URI -/

/-- The URIs of the entries. -/
def Driver.uris (driver : Driver) : List String :=
  driver.devices.map fun entry => entry.info.uri

/-- No two entries have one URI, and no URI was raised twice. -/
def OnePerUri (driver : Driver) : Prop :=
  driver.uris.Nodup ∧ driver.connected.Nodup

/-- The call adds an entry. -/
def addsDevice : DriverCall → Bool
  | .registerThread shmPresent => shmPresent
  | .tryDevice uri shmPresent => uri == "k4w" && shmPresent
  | .deviceOpen _ | .deviceClose _ => false

/-- A call that adds an entry finds none with the URI of the Kinect. -/
def AddsFresh (driver : Driver) (call : DriverCall) : Prop :=
  addsDevice call = true → "k4w" ∉ driver.uris

instance (driver : Driver) (call : DriverCall) : Decidable (AddsFresh driver call) :=
  inferInstanceAs (Decidable (_ → _))

theorem uris_setDevice (key : Nat) (device : Option Nat) (devices : List DeviceEntry) :
    (setDevice key device devices).map (fun entry => entry.info.uri) =
      devices.map fun entry => entry.info.uri := by
  rw [setDevice, List.map_map]
  refine List.map_congr_left fun entry _ => ?_
  simp only [Function.comp_apply]
  split <;> rfl

/-- What a call does to the URIs: it adds that of the Kinect to both lists, or nothing. -/
theorem step_uris {order : List DeviceEntry → List DeviceEntry} {driver next : Driver}
    {call : DriverCall} (hstep : (driverMachine order).step driver call = some next) :
    if addsDevice call then
      next.uris = driver.uris ++ ["k4w"] ∧ next.connected = driver.connected ++ ["k4w"]
    else next.uris = driver.uris ∧ next.connected = driver.connected := by
  cases call with
  | registerThread shmPresent =>
      simp only [driverMachine] at hstep
      split at hstep
      · cases hstep
      · cases hstep
        cases shmPresent with
        | true => exact ⟨by simp [registerThreadFunc, addDevice, Driver.uris, kinectInfo], rfl⟩
        | false => exact ⟨rfl, rfl⟩
  | tryDevice uri shmPresent =>
      cases hstep
      by_cases huri : uri = "k4w"
      · cases shmPresent with
        | true => simp [addsDevice, huri, tryDevice, addDevice, Driver.uris, kinectInfo]
        | false => simp [addsDevice, huri, tryDevice]
      · simp [addsDevice, huri, tryDevice]
  | deviceOpen uri =>
      cases hstep
      simp only [addsDevice, Bool.false_eq_true, if_false, deviceOpen]
      split
      · exact ⟨rfl, rfl⟩
      · split
        · exact ⟨rfl, rfl⟩
        · exact ⟨uris_setDevice _ _ _, rfl⟩
  | deviceClose device =>
      cases hstep
      simp only [addsDevice, Bool.false_eq_true, if_false, deviceClose]
      split
      · exact ⟨rfl, rfl⟩
      · exact ⟨uris_setDevice _ _ _, rfl⟩

/-! ## Runs -/

/-- How many calls of a trace added an entry. -/
def additions (trace : List (Driver × DriverCall)) : Nat :=
  trace.countP fun entry => addsDevice entry.2

theorem additions_append (trace : List (Driver × DriverCall)) (driver : Driver)
    (call : DriverCall) :
    additions (trace ++ [(driver, call)]) =
      additions trace + if addsDevice call then 1 else 0 := by
  rw [additions, List.countP_append, List.countP_singleton]
  rfl

section Run

variable {order : List DeviceEntry → List DeviceEntry} {driver : Driver}
  {trace : List (Driver × DriverCall)}

/-- Both lists have the URI of the Kinect once for every addition. -/
theorem uris_run (hrun : (driverMachine order).Run .constructed trace driver) :
    driver.uris = List.replicate (additions trace) "k4w" ∧
      driver.connected = List.replicate (additions trace) "k4w" := by
  induction hrun with
  | refl => exact ⟨rfl, rfl⟩
  | @tail middle last trace call hprefix hstep ih =>
      obtain ⟨huris, hconnected⟩ := ih
      have hlast := step_uris hstep
      rw [additions_append]
      cases hadds : addsDevice call with
      | true =>
          rw [hadds, if_pos rfl, huris, hconnected] at hlast
          rw [if_pos rfl, List.replicate_succ']
          exact hlast
      | false =>
          rw [hadds, if_neg (by decide), huris, hconnected] at hlast
          rw [if_neg (by decide), Nat.add_zero]
          exact hlast

theorem onePerUri_iff_additions (hrun : (driverMachine order).Run .constructed trace driver) :
    OnePerUri driver ↔ additions trace ≤ 1 := by
  obtain ⟨huris, hconnected⟩ := uris_run hrun
  rw [OnePerUri, huris, hconnected, and_self, List.nodup_replicate]

/-- The second addition of a run is the first one that is not fresh. -/
theorem meets_iff_additions (hrun : (driverMachine order).Run .constructed trace driver) :
    Machine.Meets AddsFresh trace ↔ additions trace ≤ 1 := by
  induction hrun with
  | refl => exact iff_of_true (fun _ hentry => absurd hentry List.not_mem_nil) (by decide)
  | @tail middle last trace call hprefix hstep ih =>
      have huris := (uris_run hprefix).1
      rw [Machine.meets_append, Machine.meets_singleton, ih, additions_append, AddsFresh, huris]
      cases hadds : addsDevice call with
      | false => simp
      | true =>
          have hfresh : "k4w" ∉ List.replicate (additions trace) "k4w" ↔ additions trace = 0 := by
            simp
          simp only [hfresh, if_true, true_imp_iff]
          omega

/-- The states along a run have no more additions behind them than its last one. -/
theorem onePerUri_everywhere (hrun : (driverMachine order).Run .constructed trace driver)
    (hfew : additions trace ≤ 1) : ∀ entry ∈ trace, OnePerUri entry.1 := by
  induction hrun with
  | refl => exact fun _ hentry => absurd hentry List.not_mem_nil
  | @tail middle last trace call hprefix hstep ih =>
      rw [additions_append] at hfew
      have hbefore : additions trace ≤ 1 := Nat.le_of_add_right_le hfew
      exact Machine.Run.everywhere_append (ih hbefore)
        ((onePerUri_iff_additions hprefix).mpr hbefore)

/--
All states of a run have at most one device per URI, and no URI was raised
twice, exactly when every call that adds a device finds none with its URI.
-/
theorem onePerUri_iff_addsFresh (order : List DeviceEntry → List DeviceEntry)
    (first last : Driver) (trace : List (Driver × DriverCall))
    (hstart : (driverMachine order).Start first)
    (hrun : (driverMachine order).Run first trace last) :
    ((∀ entry ∈ trace, OnePerUri entry.1) ∧ OnePerUri last) ↔
      Machine.Meets AddsFresh trace := by
  cases hstart
  rw [meets_iff_additions hrun, onePerUri_iff_additions hrun]
  exact ⟨And.right, fun hfew => ⟨onePerUri_everywhere hrun hfew, hfew⟩⟩

/-- The registration thread finds the segment, and its device is opened and closed. -/
theorem onePerUri_registered :
    let opened := deviceOpen id (registerThreadFunc .constructed true) "k4w"
    OnePerUri (deviceClose id opened.1 opened.2) := by
  intro opened
  let calls : List DriverCall :=
    [.registerThread true, .deviceOpen "k4w", .deviceClose (some 2)]
  have hrun : (driverMachine id).Run .constructed _ (deviceClose id opened.1 opened.2) :=
    @Machine.run_of_play _ _ (driverMachine id) _ _ calls (by decide)
  exact ((onePerUri_iff_addsFresh id _ _ _ rfl hrun).mpr (by decide)).2

/-- A call of `tryDevice` after the registration thread adds a second device. -/
theorem not_onePerUri_tryDevice :
    ¬ ∀ (order : List DeviceEntry → List DeviceEntry) (driver : Driver),
      (driverMachine order).Reachable driver → OnePerUri driver := by
  intro hall
  let calls : List DriverCall := [.registerThread true, .tryDevice "k4w" true]
  have hrun : (driverMachine id).Run .constructed _
      (tryDevice (registerThreadFunc .constructed true) "k4w" true).1 :=
    @Machine.run_of_play _ _ (driverMachine id) _ _ calls (by decide)
  exact absurd (hall id _ ⟨_, _, rfl, hrun⟩).1 (by decide)

end Run

end K4W.OpenNI
