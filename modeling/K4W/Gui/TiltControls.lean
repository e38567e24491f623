import K4W.Gui.DaemonControl
import K4W.Gui.Detections

/-!
# The tilt controls of the main window

"Aplicar Tilt" and "Reset 0°" each start a thread that asks the daemon and posts
a function to the window when it has its answer.  Until then the two buttons are
disabled, unless the daemon comes online meanwhile.  A shutdown disables them as
well.  "Actualizar sensores" has a thread and a button of its own.  The poll thread
tests whether it is enabled before a poll only, and its signals wait for the window,
so one may come after the poll was stopped.
-/

namespace K4W.Gui.TiltControls

open K4W.Library
open K4W.Library.Binary
open K4W.Gui.DaemonControl
open K4W.Gui.Detections

/-! ## The controls -/

structure Button where
  enabled : Bool
  text : String
deriving DecidableEq

/-- `m_tiltValueSensor`: an angle, or a text without one. -/
inductive AngleText where
  | angle (degrees : Int32)
  | dash
  | error

/-- `m_accelValue` -/
inductive AccelText where
  | axes (x y z : Single)
  | dash
  | error

/-- What the labels and the slider show; `rotation` is that of `m_kinectUp`. -/
structure Display where
  slider : Int32
  tiltValue : Int32
  tiltValueSensor : AngleText
  accelValue : AccelText
  rotation : Int32

/-- What a thread was started for. -/
inductive Job where
  | apply (angle : Int32)
  | reset
  | sensors
deriving DecidableEq

/-- `K4W_CMD_TILT` or `K4W_CMD_ACCEL` with its argument. -/
inductive Request where
  | tilt (angle : Int32)
  | accel
deriving DecidableEq

def Job.request : Job → Request
  | .apply angle => .tilt angle
  | .reset => .tilt 0
  | .sensors => .accel

/-- The fields of the `k4w_status_t` that the posted functions read. -/
structure Reply where
  tiltDeg : Single
  accelX : Single
  accelY : Single
  accelZ : Single

/-- The window and its threads; a job stays until its posted function has run. -/
structure Window where
  controls : Controls
  tiltBusy : Bool
  applyBtn : Button
  resetBtn : Button
  sensorBtn : Button
  sliderEnabled : Bool
  display : Display
  jobs : List Job
  /-- The poll thread is past its test of `m_enabled`. -/
  asking : Bool
  /-- The signals `daemonStatus` that wait for the window, first one first. -/
  statuses : List Bool

/-- What the constructor leaves. -/
def opened : Window where
  controls := constructed
  tiltBusy := false
  applyBtn := ⟨true, "Aplicar Tilt"⟩
  resetBtn := ⟨true, "Reset 0°"⟩
  sensorBtn := ⟨true, "Actualizar sensores"⟩
  sliderEnabled := true
  display :=
    { slider := 0
      tiltValue := 0
      tiltValueSensor := .angle 0
      accelValue := .axes (.ofInt binary32 0) (.ofInt binary32 0) (.ofInt binary32 0)
      rotation := 0 }
  jobs := []
  asking := false
  statuses := []

/-! ## The slots -/

/-- `qBound(-15, angle, 15)` -/
def bounded (angle : Int32) : Int32 :=
  max (-15) (min angle 15)

/-- `m_tiltSlider->setValue`; a change of the value is shown. -/
def Display.setSlider (display : Display) (value : Int32) : Display :=
  if bounded value = display.slider then display
  else { display with slider := bounded value, tiltValue := bounded value }

/-- `(int)resp.tilt_deg` -/
def Reply.degrees (resp : Reply) : Int32 :=
  CInt.castToInt resp.tiltDeg.truncate?

/-- What the posted functions show of an answer; `none` is one that failed. -/
def Display.answered (display : Display) : Job → Option Reply → Display
  | .apply _, some resp =>
      { display with
        tiltValue := resp.degrees
        tiltValueSensor := .angle resp.degrees
        rotation := -resp.degrees : Display }.setSlider (bounded resp.degrees)
  | .reset, some resp =>
      { display with
        tiltValue := resp.degrees
        tiltValueSensor := .angle resp.degrees
        rotation := 0 : Display }.setSlider 0
  | .sensors, some resp =>
      { display with
        accelValue := .axes resp.accelX resp.accelY resp.accelZ
        tiltValueSensor := .angle resp.degrees }
  | .apply _, none | .reset, none => display
  | .sensors, none => { display with accelValue := .error, tiltValueSensor := .error }

/-- The slot of "Aplicar Tilt". -/
def applyClicked (window : Window) : Window :=
  { window with
    applyBtn := ⟨false, "Moviendo..."⟩
    resetBtn := { window.resetBtn with enabled := false }
    jobs := window.jobs ++ [.apply window.display.slider] }

/-- The slot of "Reset 0°". -/
def resetClicked (window : Window) : Window :=
  { window with
    applyBtn := { window.applyBtn with enabled := false }
    resetBtn := ⟨false, "Reseteando..."⟩
    jobs := window.jobs ++ [.reset] }

/-- The slot of "Actualizar sensores". -/
def sensorsClicked (window : Window) : Window :=
  { window with
    sensorBtn := ⟨false, "Leyendo..."⟩
    jobs := window.jobs ++ [.sensors] }

/-- The function that the thread of a job posts to the window. -/
def posted (window : Window) (job : Job) (reply : Option Reply) : Window :=
  let answered := { window with display := window.display.answered job reply }
  match job with
  | .apply _ =>
      { answered with
        applyBtn := ⟨true, "Aplicar Tilt"⟩
        resetBtn := { window.resetBtn with enabled := true } }
  | .reset =>
      { answered with
        applyBtn := ⟨true, "Aplicar Tilt"⟩
        resetBtn := ⟨true, "Reset 0°"⟩ }
  | .sensors => { answered with sensorBtn := ⟨true, "Actualizar sensores"⟩ }

/-- What the handlers of the daemon controls do to the tilt controls. -/
def follow (window : Window) (event : DaemonControl.Event) (controls : Controls) : Window :=
  match event with
  | .daemonStatus true =>
      if window.controls.daemonOnline then { window with controls := controls }
      else
        { window with
          controls := controls
          tiltBusy := false
          applyBtn := ⟨true, "Aplicar"⟩
          resetBtn := ⟨true, "Reset 0°"⟩
          sliderEnabled := true }
  | .daemonStatus false =>
      if window.controls.daemonOnline then
        { window with
          controls := controls
          display := { window.display with accelValue := .dash, tiltValueSensor := .dash } }
      else { window with controls := controls }
  | .clickShutdown =>
      { window with
        controls := controls
        applyBtn := { window.applyBtn with enabled := false }
        resetBtn := { window.resetBtn with enabled := false }
        sliderEnabled := false }
  | .clickStart | .pressStatusBar | .clickReset | .resetTimeout =>
      { window with controls := controls }

/-- The handler of an event of the daemon controls, whether or not the poll is stopped. -/
def handle (controls : Controls) : DaemonControl.Event → Option Controls
  | .daemonStatus online => some (daemonStatus controls online)
  | .clickStart => DaemonControl.step controls .clickStart
  | .pressStatusBar => DaemonControl.step controls .pressStatusBar
  | .clickReset => DaemonControl.step controls .clickReset
  | .clickShutdown => DaemonControl.step controls .clickShutdown
  | .resetTimeout => DaemonControl.step controls .resetTimeout

/-- What waits after the event; a signal is handled in its turn. -/
def waiting? : List Bool → DaemonControl.Event → Option (List Bool)
  | online :: rest, .daemonStatus status => if status = online then some rest else none
  | [], .daemonStatus _ => none
  | statuses, .clickStart | statuses, .pressStatusBar | statuses, .clickReset
  | statuses, .clickShutdown | statuses, .resetTimeout => some statuses

inductive Event where
  | daemon (event : DaemonControl.Event)
  /-- The poll thread finds `m_enabled` set. -/
  | pollStarts
  /-- The poll is over, and has emitted a signal or none. -/
  | pollEnds (status : Option Bool)
  | moveSlider (angle : Int32)
  | clickApply
  | clickReset
  | clickSensors
  /-- The thread of a job has its answer, and its function runs. -/
  | answer (i : Nat) (reply : Option Reply)

def step (window : Window) : Event → Option Window
  | .daemon event =>
      (waiting? window.statuses event).bind fun statuses =>
        (handle window.controls event).map (follow { window with statuses := statuses } event)
  | .pollStarts =>
      if window.controls.polling && !window.asking then some { window with asking := true }
      else none
  | .pollEnds status =>
      if window.asking then
        some { window with asking := false, statuses := window.statuses ++ status.toList }
      else none
  | .moveSlider angle =>
      if window.sliderEnabled then
        some { window with display := window.display.setSlider angle }
      else none
  | .clickApply => if window.applyBtn.enabled then some (applyClicked window) else none
  | .clickReset => if window.resetBtn.enabled then some (resetClicked window) else none
  | .clickSensors => if window.sensorBtn.enabled then some (sensorsClicked window) else none
  | .answer i reply =>
      window.jobs[i]?.map fun job =>
        posted { window with jobs := window.jobs.eraseIdx i } job reply

def tiltWindow : Machine Window Event where
  Start window := window = opened
  step := step

/-! ## Threads that are under way -/

/-- The job asks the motor to move. -/
def Job.moves : Job → Bool
  | .apply _ | .reset => true
  | .sensors => false

def tilts (jobs : List Job) : Nat :=
  jobs.countP Job.moves

def readings (jobs : List Job) : Nat :=
  jobs.countP fun job => !job.moves

@[simp] theorem tilts_append (front back : List Job) :
    tilts (front ++ back) = tilts front + tilts back :=
  List.countP_append

@[simp] theorem readings_append (front back : List Job) :
    readings (front ++ back) = readings front + readings back :=
  List.countP_append

theorem tilts_concat (jobs : List Job) (job : Job) :
    tilts (jobs ++ [job]) = tilts jobs + job.moves.toNat := by
  rw [tilts_append]
  cases hmoves : job.moves <;> simp [tilts, hmoves]

theorem readings_concat (jobs : List Job) (job : Job) :
    readings (jobs ++ [job]) = readings jobs + (!job.moves).toNat := by
  rw [readings_append]
  cases hmoves : job.moves <;> simp [readings, hmoves]

section Answers

variable {jobs : List Job} {i : Nat} {job : Job} (hjob : jobs[i]? = some job)

include hjob

theorem perm_answered : (job :: jobs.eraseIdx i).Perm jobs := by
  obtain ⟨hlt, rfl⟩ := List.getElem?_eq_some_iff.mp hjob
  exact List.getElem_cons_eraseIdx_perm hlt

theorem tilts_answered : tilts jobs = tilts (jobs.eraseIdx i) + job.moves.toNat := by
  rw [tilts, ← (perm_answered hjob).countP_eq, List.countP_cons]
  cases job.moves <;> rfl

theorem readings_answered : readings jobs = readings (jobs.eraseIdx i) + (!job.moves).toNat := by
  rw [readings, ← (perm_answered hjob).countP_eq, List.countP_cons]
  cases job.moves <;> rfl

theorem mem_answered {other : Job} (hother : other ∈ jobs) (hne : other ≠ job) :
    other ∈ jobs.eraseIdx i :=
  (List.mem_cons.mp ((perm_answered hjob).mem_iff.mpr hother)).resolve_left hne

end Answers

/-- The daemon comes online in the eyes of the window. -/
def comesOnline (window : Window) : Event → Bool
  | .daemon (.daemonStatus true) => !window.controls.daemonOnline
  | _ => false

/-- How often it has. -/
def comebacks (trace : List (Window × Event)) : Nat :=
  trace.countP fun entry => comesOnline entry.1 entry.2

@[simp] theorem comebacks_append (trace : List (Window × Event)) (window : Window)
    (event : Event) :
    comebacks (trace ++ [(window, event)]) = comebacks trace + (comesOnline window event).toNat := by
  rw [comebacks, List.countP_append, List.countP_singleton]
  cases comesOnline window event <;> rfl

/-! ## What holds in every run -/

structure Sound (trace : List (Window × Event)) (window : Window) : Prop where
  together : window.resetBtn.enabled = window.applyBtn.enabled
  /-- A second request is not made before the first is answered, but for a comeback. -/
  credit : tilts window.jobs + window.applyBtn.enabled.toNat ≤ 1 + comebacks trace
  /-- The buttons of a running daemon are disabled only as long as it is asked to move. -/
  alive : window.controls.daemonOnline = true →
    (window.applyBtn.enabled = true ∨ 0 < tilts window.jobs) ∧ window.sliderEnabled = true
  sensors : readings window.jobs + window.sensorBtn.enabled.toNat = 1
  /-- Nothing sets `m_tiltBusy`. -/
  idle : window.tiltBusy = false
  moving : window.applyBtn.text = "Moviendo..." → ∃ angle, .apply angle ∈ window.jobs
  resetting : window.resetBtn.text = "Reseteando..." → .reset ∈ window.jobs
  reading : window.sensorBtn.text = "Leyendo..." → .sensors ∈ window.jobs
  slider : -15 ≤ window.display.slider ∧ window.display.slider ≤ 15
  asked : ∀ job ∈ window.jobs, ∀ angle, job.request = .tilt angle → -15 ≤ angle ∧ angle ≤ 15

theorem sound_opened : Sound [] opened where
  together := rfl
  credit := by decide
  alive := nofun
  sensors := rfl
  idle := rfl
  moving := fun htext => absurd htext (by decide)
  resetting := fun htext => absurd htext (by decide)
  reading := fun htext => absurd htext (by decide)
  slider := by decide
  asked := nofun

theorem bounded_range (angle : Int32) : -15 ≤ bounded angle ∧ bounded angle ≤ 15 := by
  have hlow : (-15 : Int32).toInt = -15 := rfl
  have hhigh : (15 : Int32).toInt = 15 := rfl
  rw [Int32.le_iff_toInt_le, Int32.le_iff_toInt_le, bounded, CInt.toInt_max, CInt.toInt_min, hlow,
    hhigh]
  omega

theorem setSlider_range {display : Display} (value : Int32)
    (hdisplay : -15 ≤ display.slider ∧ display.slider ≤ 15) :
    -15 ≤ (display.setSlider value).slider ∧ (display.setSlider value).slider ≤ 15 := by
  unfold Display.setSlider
  split
  · exact hdisplay
  · exact bounded_range value

theorem answered_range {display : Display} (job : Job) (reply : Option Reply)
    (hdisplay : -15 ≤ display.slider ∧ display.slider ≤ 15) :
    -15 ≤ (display.answered job reply).slider ∧ (display.answered job reply).slider ≤ 15 := by
  cases job with
  | apply angle =>
      cases reply with
      | none => exact hdisplay
      | some resp => exact setSlider_range _ hdisplay
  | reset =>
      cases reply with
      | none => exact hdisplay
      | some resp => exact setSlider_range _ hdisplay
  | sensors => cases reply <;> exact hdisplay

/-- Only the poll finds the daemon online. -/
theorem online_of_handle {event : DaemonControl.Event} {controls next : Controls}
    (hhandle : handle controls event = some next) (hevent : event ≠ .daemonStatus true)
    (honline : next.daemonOnline = true) : controls.daemonOnline = true := by
  cases event with
  | daemonStatus online =>
      cases hhandle
      cases online with
      | true => exact absurd rfl hevent
      | false =>
          cases hbefore : controls.daemonOnline with
          | true => rfl
          | false => simp [daemonStatus, hbefore] at honline
  | clickShutdown =>
      simp only [handle, DaemonControl.step] at hhandle
      split at hhandle <;> cases hhandle
      exact absurd honline Bool.false_ne_true
  | clickStart =>
      simp only [handle, DaemonControl.step] at hhandle
      split at hhandle <;> cases hhandle
      revert honline
      unfold onStartDaemon
      split <;> exact id
  | pressStatusBar =>
      cases hhandle
      revert honline
      unfold onStartDaemon
      split <;> exact id
  | clickReset =>
      simp only [handle, DaemonControl.step] at hhandle
      split at hhandle <;> cases hhandle
      exact honline
  | resetTimeout =>
      simp only [handle, DaemonControl.step] at hhandle
      split at hhandle <;> cases hhandle
      revert honline
      unfold resetTimeout
      dsimp only
      split <;> exact id

/-- Only a signal is taken from those that wait. -/
theorem waiting_cases {statuses rest : List Bool} {event : DaemonControl.Event}
    (hwaiting : waiting? statuses event = some rest) :
    (∃ online, event = .daemonStatus online ∧ statuses = online :: rest) ∨
      (∀ online, event ≠ .daemonStatus online) ∧ rest = statuses := by
  cases event with
  | daemonStatus status =>
      left
      cases statuses with
      | nil => cases hwaiting
      | cons online others =>
          rw [waiting?] at hwaiting
          split at hwaiting
          case isTrue hsame =>
              cases hwaiting
              exact ⟨status, rfl, by rw [hsame]⟩
          case isFalse => cases hwaiting
  | clickStart | pressStatusBar | clickReset | clickShutdown | resetTimeout =>
      right
      cases statuses <;> cases hwaiting <;> exact ⟨fun _ => nofun, rfl⟩

section Steps

variable {trace : List (Window × Event)} {window : Window} (hsound : Sound trace window)

include hsound

/-- A step that the buttons and the threads do not take part in. -/
theorem Sound.frame {event : Event} {next : Window} (happly : next.applyBtn = window.applyBtn)
    (hreset : next.resetBtn = window.resetBtn) (hsensor : next.sensorBtn = window.sensorBtn)
    (hjobs : next.jobs = window.jobs) (hidle : next.tiltBusy = false)
    (hslider : -15 ≤ next.display.slider ∧ next.display.slider ≤ 15)
    (henabled : next.sliderEnabled = window.sliderEnabled)
    (honline : next.controls.daemonOnline = true → window.controls.daemonOnline = true) :
    Sound (trace ++ [(window, event)]) next where
  together := by rw [happly, hreset, hsound.together]
  credit := by
    have hcredit := hsound.credit
    rw [hjobs, happly, comebacks_append]
    omega
  alive := by
    rw [happly, hjobs, henabled]
    exact fun h => hsound.alive (honline h)
  sensors := by rw [hjobs, hsensor, hsound.sensors]
  idle := hidle
  moving := by
    rw [happly, hjobs]
    exact hsound.moving
  resetting := by
    rw [hreset, hjobs]
    exact hsound.resetting
  reading := by
    rw [hsensor, hjobs]
    exact hsound.reading
  slider := hslider
  asked := by
    rw [hjobs]
    exact hsound.asked

/-- The daemon comes online: the buttons of the tilt are enabled whatever is under way. -/
theorem Sound.online {controls : Controls} {statuses : List Bool}
    (hoffline : window.controls.daemonOnline = false) :
    Sound (trace ++ [(window, .daemon (.daemonStatus true))])
      (follow { window with statuses := statuses } (.daemonStatus true) controls) := by
  rw [follow, if_neg (by rw [hoffline]; exact Bool.false_ne_true)]
  exact {
    hsound with
    together := rfl
    credit := by
      have hcredit := hsound.credit
      have hcomes : comesOnline window (.daemon (.daemonStatus true)) = true := by
        rw [comesOnline, hoffline]
        rfl
      rw [comebacks_append, hcomes]
      change tilts window.jobs + 1 ≤ 1 + (comebacks trace + 1)
      omega
    alive := fun _ => ⟨.inl rfl, rfl⟩
    idle := rfl
    moving := fun htext => absurd htext (by decide : "Aplicar" ≠ "Moviendo...")
    resetting := fun htext => absurd htext (by decide : "Reset 0°" ≠ "Reseteando...") }

/-- A shutdown disables the buttons, and the daemon is offline. -/
theorem Sound.shutdown {controls : Controls} {statuses : List Bool}
    (hoffline : controls.daemonOnline = false) :
    Sound (trace ++ [(window, .daemon .clickShutdown)])
      (follow { window with statuses := statuses } .clickShutdown controls) :=
  { hsound with
    together := rfl
    credit := by
      have hcredit := hsound.credit
      rw [comebacks_append]
      change tilts window.jobs + 0 ≤ 1 + (comebacks trace + 0)
      omega
    alive := fun honline => absurd (hoffline.symm.trans honline) Bool.false_ne_true }

/-- The jobs when a thread is started from an enabled button of the tilt. -/
theorem Sound.asking {job : Job} (hmoves : job.moves = true)
    (henabled : window.applyBtn.enabled = true) :
    tilts (window.jobs ++ [job]) ≤ 1 + comebacks trace ∧ 0 < tilts (window.jobs ++ [job]) ∧
      readings (window.jobs ++ [job]) = readings window.jobs := by
  have hcredit := hsound.credit
  rw [henabled] at hcredit
  rw [tilts_concat, readings_concat, hmoves]
  exact ⟨hcredit, Nat.succ_pos _, rfl⟩

theorem Sound.asked_concat {job : Job}
    (hjob : ∀ angle, job.request = .tilt angle → -15 ≤ angle ∧ angle ≤ 15) :
    ∀ other ∈ window.jobs ++ [job], ∀ angle, other.request = .tilt angle →
      -15 ≤ angle ∧ angle ≤ 15 := by
  intro other hother
  rcases List.mem_append.mp hother with hold | hnew
  · exact hsound.asked other hold
  · rw [List.mem_singleton.mp hnew]
    exact hjob

theorem Sound.apply (henabled : window.applyBtn.enabled = true) :
    Sound (trace ++ [(window, .clickApply)]) (applyClicked window) := by
  obtain ⟨hcredit, hpos, hreadings⟩ :=
    hsound.asking (rfl : (Job.apply window.display.slider).moves = true) henabled
  exact {
    hsound with
    together := rfl
    credit := by
      rw [comebacks_append]
      exact hcredit
    alive := fun honline => ⟨.inr hpos, (hsound.alive honline).2⟩
    sensors := by
      rw [← hsound.sensors, ← hreadings]
      rfl
    moving := fun _ => ⟨window.display.slider, List.mem_append_right _ List.mem_cons_self⟩
    resetting := fun htext => List.mem_append_left _ (hsound.resetting htext)
    reading := fun htext => List.mem_append_left _ (hsound.reading htext)
    asked := hsound.asked_concat fun angle hangle => by
      cases hangle
      exact hsound.slider }

theorem Sound.reset (henabled : window.resetBtn.enabled = true) :
    Sound (trace ++ [(window, .clickReset)]) (resetClicked window) := by
  obtain ⟨hcredit, hpos, hreadings⟩ :=
    hsound.asking (rfl : Job.reset.moves = true) (hsound.together.symm.trans henabled)
  exact {
    hsound with
    together := rfl
    credit := by
      rw [comebacks_append]
      exact hcredit
    alive := fun honline => ⟨.inr hpos, (hsound.alive honline).2⟩
    sensors := by
      rw [← hsound.sensors, ← hreadings]
      rfl
    moving := fun htext => by
      obtain ⟨angle, hangle⟩ := hsound.moving htext
      exact ⟨angle, List.mem_append_left _ hangle⟩
    resetting := fun _ => List.mem_append_right _ List.mem_cons_self
    reading := fun htext => List.mem_append_left _ (hsound.reading htext)
    asked := hsound.asked_concat fun angle hangle => by
      cases hangle
      decide }

theorem Sound.read (henabled : window.sensorBtn.enabled = true) :
    Sound (trace ++ [(window, .clickSensors)]) (sensorsClicked window) := by
  have htilts : tilts (window.jobs ++ [.sensors]) = tilts window.jobs := by
    rw [tilts_concat]
    rfl
  exact {
    hsound with
    credit := by
      rw [comebacks_append]
      change tilts (window.jobs ++ [.sensors]) + _ ≤ _
      rw [htilts]
      exact hsound.credit
    alive := by
      change _ → (_ ∨ 0 < tilts (window.jobs ++ [.sensors])) ∧ _
      rw [htilts]
      exact hsound.alive
    sensors := by
      have hsensors := hsound.sensors
      rw [henabled] at hsensors
      change readings (window.jobs ++ [.sensors]) + 0 = 1
      rw [readings_concat]
      exact hsensors
    moving := fun htext => by
      obtain ⟨angle, hangle⟩ := hsound.moving htext
      exact ⟨angle, List.mem_append_left _ hangle⟩
    resetting := fun htext => List.mem_append_left _ (hsound.resetting htext)
    reading := fun _ => List.mem_append_right _ List.mem_cons_self
    asked := hsound.asked_concat fun _ hangle => by cases hangle }

/-- What is left has been asked for before. -/
theorem Sound.asked_eraseIdx (i : Nat) : ∀ other ∈ window.jobs.eraseIdx i, ∀ angle,
    other.request = .tilt angle → -15 ≤ angle ∧ angle ≤ 15 :=
  fun other hother => hsound.asked other (List.mem_of_mem_eraseIdx hother)

section Posted

variable {i : Nat} {job : Job} (hjob : window.jobs[i]? = some job)

include hjob

/-- The jobs when a thread that was started from a button of the tilt has its answer. -/
theorem Sound.answering (hmoves : job.moves = true) :
    tilts (window.jobs.eraseIdx i) + 1 ≤ 1 + comebacks trace ∧
      readings (window.jobs.eraseIdx i) = readings window.jobs := by
  have hcredit := hsound.credit
  rw [tilts_answered hjob, hmoves] at hcredit
  rw [readings_answered hjob, hmoves]
  exact ⟨(Nat.le_add_right _ _).trans hcredit, rfl⟩

theorem Sound.answer (reply : Option Reply) :
    Sound (trace ++ [(window, .answer i reply)])
      (posted { window with jobs := window.jobs.eraseIdx i } job reply) := by
  cases job with
  | apply angle =>
      obtain ⟨hcredit, hreadings⟩ := hsound.answering hjob rfl
      exact {
        together := rfl
        credit := by
          rw [comebacks_append]
          exact hcredit
        alive := fun honline => ⟨.inl rfl, (hsound.alive honline).2⟩
        sensors := by
          rw [← hsound.sensors, ← hreadings]
          rfl
        idle := hsound.idle
        moving := fun htext => absurd htext (by decide : "Aplicar Tilt" ≠ "Moviendo...")
        resetting := fun htext => mem_answered hjob (hsound.resetting htext) nofun
        reading := fun htext => mem_answered hjob (hsound.reading htext) nofun
        slider := answered_range _ reply hsound.slider
        asked := hsound.asked_eraseIdx i }
  | reset =>
      obtain ⟨hcredit, hreadings⟩ := hsound.answering hjob rfl
      exact {
        together := rfl
        credit := by
          rw [comebacks_append]
          exact hcredit
        alive := fun honline => ⟨.inl rfl, (hsound.alive honline).2⟩
        sensors := by
          rw [← hsound.sensors, ← hreadings]
          rfl
        idle := hsound.idle
        moving := fun htext => absurd htext (by decide : "Aplicar Tilt" ≠ "Moviendo...")
        resetting := fun htext => absurd htext (by decide : "Reset 0°" ≠ "Reseteando...")
        reading := fun htext => mem_answered hjob (hsound.reading htext) nofun
        slider := answered_range _ reply hsound.slider
        asked := hsound.asked_eraseIdx i }
  | sensors =>
      have htilts : tilts (window.jobs.eraseIdx i) = tilts window.jobs := (tilts_answered hjob).symm
      exact {
        hsound with
        credit := by
          rw [comebacks_append]
          change tilts (window.jobs.eraseIdx i) + _ ≤ _
          rw [htilts]
          exact hsound.credit
        alive := by
          change _ → (_ ∨ 0 < tilts (window.jobs.eraseIdx i)) ∧ _
          rw [htilts]
          exact hsound.alive
        sensors := by
          have hsensors := hsound.sensors
          have hreadings : readings window.jobs = readings (window.jobs.eraseIdx i) + 1 :=
            readings_answered hjob
          change readings (window.jobs.eraseIdx i) + 1 = 1
          omega
        moving := fun htext => by
          obtain ⟨angle, hangle⟩ := hsound.moving htext
          exact ⟨angle, mem_answered hjob hangle nofun⟩
        resetting := fun htext => mem_answered hjob (hsound.resetting htext) nofun
        reading := fun htext =>
          absurd htext (by decide : "Actualizar sensores" ≠ "Leyendo...")
        slider := answered_range _ reply hsound.slider
        asked := hsound.asked_eraseIdx i }

end Posted

theorem Sound.follow {event : DaemonControl.Event} {controls : Controls} {statuses : List Bool}
    (hhandle : handle window.controls event = some controls) :
    Sound (trace ++ [(window, .daemon event)])
      (follow { window with statuses := statuses } event controls) := by
  cases event with
  | daemonStatus online =>
      cases online with
      | true =>
          cases hbefore : window.controls.daemonOnline with
          | false => exact hsound.online hbefore
          | true =>
              rw [TiltControls.follow, if_pos hbefore]
              exact hsound.frame rfl rfl rfl rfl hsound.idle hsound.slider rfl fun _ => hbefore
      | false =>
          rw [TiltControls.follow]
          split
          case isTrue hbefore =>
              exact hsound.frame rfl rfl rfl rfl hsound.idle hsound.slider rfl fun _ => hbefore
          case isFalse =>
              exact hsound.frame rfl rfl rfl rfl hsound.idle hsound.slider rfl
                (online_of_handle hhandle (by decide))
  | clickShutdown =>
      simp only [handle, DaemonControl.step] at hhandle
      split at hhandle <;> cases hhandle
      exact hsound.shutdown rfl
  | clickStart | pressStatusBar | clickReset | resetTimeout =>
      exact hsound.frame rfl rfl rfl rfl hsound.idle hsound.slider rfl
        (online_of_handle hhandle (by decide))

theorem Sound.step {event : Event} {next : Window} (hstep : step window event = some next) :
    Sound (trace ++ [(window, event)]) next := by
  cases event with
  | daemon event =>
      obtain ⟨statuses, -, hhandled⟩ := Option.bind_eq_some_iff.mp hstep
      obtain ⟨controls, hcontrols, rfl⟩ := Option.map_eq_some_iff.mp hhandled
      exact hsound.follow hcontrols
  | pollStarts | pollEnds status =>
      simp only [TiltControls.step] at hstep
      split at hstep <;> cases hstep
      exact hsound.frame rfl rfl rfl rfl hsound.idle hsound.slider rfl id
  | moveSlider angle =>
      simp only [TiltControls.step] at hstep
      split at hstep <;> cases hstep
      exact hsound.frame rfl rfl rfl rfl hsound.idle (setSlider_range angle hsound.slider) rfl id
  | clickApply =>
      simp only [TiltControls.step] at hstep
      split at hstep
      case isFalse => cases hstep
      case isTrue henabled =>
          cases hstep
          exact hsound.apply henabled
  | clickReset =>
      simp only [TiltControls.step] at hstep
      split at hstep
      case isFalse => cases hstep
      case isTrue henabled =>
          cases hstep
          exact hsound.reset henabled
  | clickSensors =>
      simp only [TiltControls.step] at hstep
      split at hstep
      case isFalse => cases hstep
      case isTrue henabled =>
          cases hstep
          exact hsound.read henabled
  | answer i reply =>
      obtain ⟨job, hjob, rfl⟩ := Option.map_eq_some_iff.mp hstep
      exact hsound.answer hjob reply

end Steps

theorem sound_run {trace : List (Window × Event)} {last : Window}
    (hrun : tiltWindow.Run opened trace last) : Sound trace last := by
  have hmeets : Machine.Meets (fun _ _ => True) trace := fun _ _ => trivial
  exact hrun.preserves_traced hmeets sound_opened fun hsound _ hstep => hsound.step hstep

/-! ## The daemon controls in a run -/

/-- The part of a run that the daemon controls take part in. -/
def daemonEvents (trace : List (Window × Event)) : List (Controls × DaemonControl.Event) :=
  trace.filterMap fun entry =>
    match entry.2 with
    | .daemon event => some (entry.1.controls, event)
    | .pollStarts | .pollEnds _ | .moveSlider _ | .clickApply | .clickReset | .clickSensors
    | .answer _ _ => none

def isSignal : Event → Bool
  | .daemon (.daemonStatus _) => true
  | _ => false

/-- A signal is handled only while the poll is not stopped. -/
def InTime (window : Window) (event : Event) : Prop :=
  isSignal event = true → window.controls.polling = true

theorem follow_controls (window : Window) (event : DaemonControl.Event) (controls : Controls) :
    (follow window event controls).controls = controls := by
  unfold follow
  split
  · split <;> rfl
  · split <;> rfl
  · rfl
  all_goals rfl

theorem step_controls {window next : Window} {event : Event}
    (hstep : step window event = some next) :
    (∃ daemon, event = .daemon daemon ∧ handle window.controls daemon = some next.controls) ∨
      (∀ daemon, event ≠ .daemon daemon) ∧ next.controls = window.controls := by
  cases event with
  | daemon daemon =>
      obtain ⟨statuses, -, hhandled⟩ := Option.bind_eq_some_iff.mp hstep
      obtain ⟨controls, hcontrols, rfl⟩ := Option.map_eq_some_iff.mp hhandled
      exact .inl ⟨daemon, rfl, by rw [follow_controls, hcontrols]⟩
  | answer i reply =>
      obtain ⟨job, -, rfl⟩ := Option.map_eq_some_iff.mp hstep
      exact .inr ⟨nofun, by cases job <;> rfl⟩
  | pollStarts | pollEnds | moveSlider | clickApply | clickReset | clickSensors =>
      simp only [step] at hstep
      split at hstep <;> cases hstep
      exact .inr ⟨nofun, rfl⟩

/-- In its time an event is one of the daemon controls. -/
theorem step_of_handle {controls next : Controls} {event : DaemonControl.Event}
    (hhandle : handle controls event = some next)
    (hintime : (∃ online, event = .daemonStatus online) → controls.polling = true) :
    DaemonControl.step controls event = some next := by
  cases event with
  | daemonStatus online =>
      rw [DaemonControl.step, if_pos (hintime ⟨online, rfl⟩)]
      exact hhandle
  | clickStart | pressStatusBar | clickReset | clickShutdown | resetTimeout => exact hhandle

/-- A run of the window whose signals come in time is a run of its daemon controls. -/
theorem run_daemonEvents {first last : Window} {trace : List (Window × Event)}
    (hrun : tiltWindow.Run first trace last) (hintime : Machine.Meets InTime trace) :
    mainWindow.Run first.controls (daemonEvents trace) last.controls := by
  induction hrun with
  | refl => exact .refl _
  | @tail middle last trace event hprefix hstep ih =>
      obtain ⟨hfront, hback⟩ := Machine.meets_append.mp hintime
      rw [daemonEvents, List.filterMap_append]
      rcases step_controls hstep with ⟨daemon, rfl, hdaemon⟩ | ⟨hother, hcontrols⟩
      · refine .tail (ih hfront) (step_of_handle hdaemon fun honline => ?_)
        obtain ⟨online, rfl⟩ := honline
        exact Machine.meets_singleton.mp hback rfl
      · rw [hcontrols]
        cases event with
        | daemon daemon => exact absurd rfl (hother daemon)
        | pollStarts | pollEnds | moveSlider | clickApply | clickReset | clickSensors | answer =>
            rw [List.filterMap_cons_none rfl, List.filterMap_nil, List.append_nil]
            exact ih hfront

/-- Only a reset of the daemon stops the poll, and for good. -/
theorem polling_handle {controls next : Controls} {event : DaemonControl.Event}
    (hhandle : handle controls event = some next) :
    (event = .clickReset ∧ next.polling = false) ∨
      (event ≠ .clickReset ∧ next.polling = controls.polling) := by
  cases event with
  | daemonStatus online =>
      cases hhandle
      exact .inr ⟨nofun, polling_daemonStatus controls online⟩
  | clickStart | pressStatusBar | clickReset | clickShutdown | resetTimeout =>
      exact polling_step hhandle

/-- The poll goes on until a reset of the daemon is clicked. -/
theorem polling_iff {last : Window} {trace : List (Window × Event)}
    (hrun : tiltWindow.Run opened trace last) :
    last.controls.polling = true ↔ ∀ entry ∈ trace, entry.2 ≠ .daemon .clickReset := by
  have hmeets : Machine.Meets (fun _ _ => True) trace := fun _ _ => trivial
  refine @Machine.Run.preserves_traced _ _ tiltWindow (fun trace window =>
    window.controls.polling = true ↔ ∀ entry ∈ trace, entry.2 ≠ .daemon .clickReset)
    _ _ _ _ hrun hmeets ⟨fun _ entry hentry => absurd hentry List.not_mem_nil, fun _ => rfl⟩ ?_
  intro trace window event next hpolling _ hstep
  have hlater : (∀ entry ∈ trace ++ [(window, event)], entry.2 ≠ .daemon .clickReset) ↔
      window.controls.polling = true ∧ event ≠ .daemon .clickReset := by
    rw [hpolling]
    simp only [List.mem_append, List.mem_singleton, or_imp, forall_and, forall_eq]
  rw [hlater]
  rcases step_controls hstep with ⟨daemon, rfl, hdaemon⟩ | ⟨hother, hcontrols⟩
  · rcases polling_handle hdaemon with ⟨rfl, hstopped⟩ | ⟨hdiffers, hsame⟩
    · rw [hstopped]
      exact ⟨nofun, fun hboth => absurd rfl hboth.2⟩
    · rw [hsame]
      exact ⟨fun hpolled => ⟨hpolled, fun heq => hdiffers (Event.daemon.inj heq)⟩,
        fun hboth => hboth.1⟩
  · rw [hcontrols]
    exact ⟨fun hpolled => ⟨hpolled, hother _⟩, fun hboth => hboth.1⟩

/-! ## Buttons that stay disabled -/

/-- Nothing is under way that would enable the buttons, and the daemon is not polled. -/
structure Lost (window : Window) : Prop where
  apply : window.applyBtn.enabled = false
  reset : window.resetBtn.enabled = false
  unanswered : tilts window.jobs = 0
  unpolled : window.controls.polling = false
  unasked : window.asking = false
  unsignalled : true ∉ window.statuses

theorem Lost.follow {window : Window} {event : DaemonControl.Event} {controls : Controls}
    {statuses : List Bool} (hlost : Lost window)
    (hwaiting : waiting? window.statuses event = some statuses)
    (hhandle : handle window.controls event = some controls) :
    Lost (follow { window with statuses := statuses } event controls) := by
  have hunpolled : controls.polling = false := by
    rcases polling_handle hhandle with ⟨-, hpolling⟩ | ⟨-, hpolling⟩
    · exact hpolling
    · exact hpolling.trans hlost.unpolled
  rcases waiting_cases hwaiting with ⟨online, rfl, hstatuses⟩ | ⟨hother, hsame⟩
  · have hsignals := hlost.unsignalled
    rw [hstatuses, List.mem_cons, not_or] at hsignals
    cases online with
    | true => exact absurd rfl hsignals.1
    | false =>
        rw [TiltControls.follow]
        split <;>
          exact ⟨hlost.apply, hlost.reset, hlost.unanswered, hunpolled, hlost.unasked,
            hsignals.2⟩
  · subst hsame
    cases event with
    | daemonStatus online => exact absurd rfl (hother online)
    | clickShutdown =>
        exact ⟨rfl, rfl, hlost.unanswered, hunpolled, hlost.unasked, hlost.unsignalled⟩
    | clickStart | pressStatusBar | clickReset | resetTimeout =>
        exact ⟨hlost.apply, hlost.reset, hlost.unanswered, hunpolled, hlost.unasked,
          hlost.unsignalled⟩

theorem Lost.step {window next : Window} {event : Event} (hlost : Lost window)
    (hstep : step window event = some next) : Lost next := by
  cases event with
  | daemon event =>
      obtain ⟨statuses, hwaiting, hhandled⟩ := Option.bind_eq_some_iff.mp hstep
      obtain ⟨controls, hcontrols, rfl⟩ := Option.map_eq_some_iff.mp hhandled
      exact hlost.follow hwaiting hcontrols
  | pollStarts =>
      rw [TiltControls.step, hlost.unpolled, Bool.false_and, if_neg Bool.false_ne_true] at hstep
      cases hstep
  | pollEnds status =>
      rw [TiltControls.step, hlost.unasked, if_neg Bool.false_ne_true] at hstep
      cases hstep
  | moveSlider angle =>
      simp only [TiltControls.step] at hstep
      split at hstep <;> cases hstep
      exact { hlost with }
  | clickApply =>
      rw [TiltControls.step, hlost.apply, if_neg Bool.false_ne_true] at hstep
      cases hstep
  | clickReset =>
      rw [TiltControls.step, hlost.reset, if_neg Bool.false_ne_true] at hstep
      cases hstep
  | clickSensors =>
      simp only [TiltControls.step] at hstep
      split at hstep <;> cases hstep
      have htilts : tilts (window.jobs ++ [.sensors]) = 0 := by
        rw [tilts_concat]
        exact hlost.unanswered
      exact { hlost with unanswered := htilts }
  | answer i reply =>
      obtain ⟨job, hjob, rfl⟩ := Option.map_eq_some_iff.mp hstep
      have htilts := tilts_answered hjob
      rw [hlost.unanswered] at htilts
      cases job with
      | sensors => exact { hlost with unanswered := htilts.symm }
      | apply | reset => cases htilts

/-- The answer of a thread that asks the motor to move enables the buttons. -/
theorem exists_answer {window : Window} (htilts : 0 < tilts window.jobs) :
    ∃ later, tiltWindow.Reaches window later ∧ later.applyBtn.enabled = true := by
  obtain ⟨job, hmem, hmoves⟩ := List.countP_pos_iff.mp htilts
  obtain ⟨i, hlt, rfl⟩ := List.mem_iff_getElem.mp hmem
  have hstep : tiltWindow.step window (.answer i none) =
      some (posted { window with jobs := window.jobs.eraseIdx i } window.jobs[i] none) := by
    change window.jobs[i]?.map _ = _
    rw [List.getElem?_eq_getElem hlt]
    rfl
  refine ⟨_, .single _ hstep, ?_⟩
  cases hjob : window.jobs[i] with
  | sensors =>
      rw [hjob] at hmoves
      cases hmoves
  | apply | reset => rfl

/-- The buttons of a running daemon are enabled, or will be with an answer. -/
theorem Sound.exists_of_online {trace : List (Window × Event)} {window : Window}
    (hsound : Sound trace window) (honline : window.controls.daemonOnline = true) :
    ∃ later, tiltWindow.Reaches window later ∧ later.applyBtn.enabled = true := by
  rcases (hsound.alive honline).1 with henabled | htilts
  · exact ⟨window, .refl window, henabled⟩
  · exact exists_answer htilts

theorem daemonStatus_online (controls : Controls) :
    (daemonStatus controls true).daemonOnline = true := by
  cases honline : controls.daemonOnline <;> simp [daemonStatus, honline]

/-- A signal that waits and says that the daemon is online. -/
theorem Sound.exists_signalled {trace : List (Window × Event)} {window : Window}
    (hsound : Sound trace window) (hsignal : true ∈ window.statuses) :
    ∃ later, tiltWindow.Reaches window later ∧ later.applyBtn.enabled = true := by
  induction hstatuses : window.statuses generalizing trace window with
  | nil =>
      rw [hstatuses] at hsignal
      cases hsignal
  | cons online rest ih =>
      let next := TiltControls.follow { window with statuses := rest } (.daemonStatus online)
        (daemonStatus window.controls online)
      have hstep : TiltControls.step window (.daemon (.daemonStatus online)) = some next := by
        rw [TiltControls.step, hstatuses, waiting?, if_pos rfl]
        rfl
      have hnext := hsound.step hstep
      have hfirst : tiltWindow.Reaches window next :=
        .single (.daemon (.daemonStatus online)) hstep
      cases online with
      | true =>
          have honline : next.controls.daemonOnline = true := by
            rw [follow_controls]
            exact daemonStatus_online window.controls
          obtain ⟨later, hreaches, henabled⟩ := hnext.exists_of_online honline
          exact ⟨later, hfirst.trans hreaches, henabled⟩
      | false =>
          have hrest : next.statuses = rest := by
            change (if _ then _ else _ : Window).statuses = rest
            split <;> rfl
          rw [hstatuses, List.mem_cons] at hsignal
          have hmem : true ∈ next.statuses := by
            rw [hrest]
            exact hsignal.resolve_left nofun
          obtain ⟨later, hreaches, henabled⟩ := ih hnext hmem hrest
          exact ⟨later, hfirst.trans hreaches, henabled⟩

/-- A poll that is under way may still find the daemon online. -/
theorem Sound.exists_asked {trace : List (Window × Event)} {window : Window}
    (hsound : Sound trace window) (hasking : window.asking = true) :
    ∃ later, tiltWindow.Reaches window later ∧ later.applyBtn.enabled = true := by
  have hstep : TiltControls.step window (.pollEnds (some true)) =
      some { window with asking := false, statuses := window.statuses ++ [true] } := by
    rw [TiltControls.step, if_pos hasking]
    rfl
  have hmem : true ∈ window.statuses ++ [true] :=
    List.mem_append_right _ (List.mem_singleton.mpr rfl)
  obtain ⟨later, hreaches, henabled⟩ := (hsound.step hstep).exists_signalled hmem
  exact ⟨later, (Machine.Reaches.single (.pollEnds (some true)) hstep).trans hreaches, henabled⟩

/-- So may the next one, as long as the poll is not stopped. -/
theorem Sound.exists_polled {trace : List (Window × Event)} {window : Window}
    (hsound : Sound trace window) (hpolling : window.controls.polling = true) :
    ∃ later, tiltWindow.Reaches window later ∧ later.applyBtn.enabled = true := by
  cases hasking : window.asking with
  | true => exact hsound.exists_asked hasking
  | false =>
      have hstep : TiltControls.step window .pollStarts = some { window with asking := true } := by
        rw [TiltControls.step, hpolling, hasking]
        rfl
      obtain ⟨later, hreaches, henabled⟩ := (hsound.step hstep).exists_asked rfl
      exact ⟨later, (Machine.Reaches.single .pollStarts hstep).trans hreaches, henabled⟩

theorem lost_iff {trace : List (Window × Event)} {window : Window} (hsound : Sound trace window) :
    Lost window ↔ ∀ later, tiltWindow.Reaches window later → later.applyBtn.enabled = false := by
  constructor
  · rintro hlost later ⟨back, hback⟩
    have hmeets : Machine.Meets (fun _ _ => True) back := fun _ _ => trivial
    exact (hback.preserves hmeets hlost fun hlost _ hstep => hlost.step hstep).apply
  · intro hnever
    have hdisabled : ¬ ∃ later, tiltWindow.Reaches window later ∧
        later.applyBtn.enabled = true := by
      rintro ⟨later, hreaches, henabled⟩
      rw [hnever later hreaches] at henabled
      cases henabled
    have happly := hnever window (.refl window)
    exact {
      apply := happly
      reset := hsound.together.trans happly
      unanswered := Nat.eq_zero_of_not_pos fun htilts => hdisabled (exists_answer htilts)
      unpolled := Bool.eq_false_iff.mpr fun hpolling => hdisabled (hsound.exists_polled hpolling)
      unasked := Bool.eq_false_iff.mpr fun hasking => hdisabled (hsound.exists_asked hasking)
      unsignalled := fun hsignal => hdisabled (hsound.exists_signalled hsignal) }

/--
In every run, each request for a tilt is answered before the buttons allow the
next one, but for one more each time the daemon comes online; a running daemon's
buttons are disabled only for a request.  They stay disabled for good exactly
when they are disabled without a request under way, after a reset of the daemon,
and no poll that began before it can still say that the daemon is online.
-/
theorem tilt_controls {trace : List (Window × Event)} {last : Window}
    (hrun : tiltWindow.Run opened trace last) :
    Sound trace last ∧
      (Machine.Meets InTime trace →
        mainWindow.Run constructed (daemonEvents trace) last.controls) ∧
      ((∀ later, tiltWindow.Reaches last later → later.applyBtn.enabled = false) ↔
        last.applyBtn.enabled = false ∧ tilts last.jobs = 0 ∧ last.asking = false ∧
          true ∉ last.statuses ∧ ∃ entry ∈ trace, entry.2 = .daemon .clickReset) := by
  have hsound := sound_run hrun
  refine ⟨hsound, run_daemonEvents hrun, ?_⟩
  rw [← lost_iff hsound]
  have hpolling := polling_iff hrun
  constructor
  · intro hlost
    refine ⟨hlost.apply, hlost.unanswered, hlost.unasked, hlost.unsignalled, ?_⟩
    by_contra hnone
    have hpolled := hpolling.mpr fun entry hentry hreset => hnone ⟨entry, hentry, hreset⟩
    rw [hlost.unpolled] at hpolled
    cases hpolled
  · rintro ⟨happly, hunanswered, hunasked, hunsignalled, entry, hentry, hreset⟩
    refine ⟨happly, hsound.together.trans happly, hunanswered, ?_, hunasked, hunsignalled⟩
    by_contra hpolled
    exact hpolling.mp (Bool.not_eq_false _ ▸ hpolled) entry hentry hreset

/-- The daemon is found, reset while it is online, and shut down then. -/
def resetAndShutdown : List Event :=
  [.pollStarts, .pollEnds (some true), .daemon (.daemonStatus true), .daemon .clickReset,
    .daemon .clickShutdown]

theorem tilt_controls_resetAndShutdown : ∃ last,
    tiltWindow.play opened resetAndShutdown = some last ∧
      Sound (tiltWindow.traceOf opened resetAndShutdown) last ∧
      mainWindow.Run constructed
        (daemonEvents (tiltWindow.traceOf opened resetAndShutdown)) last.controls ∧
      ∀ later, tiltWindow.Reaches last later → later.applyBtn.enabled = false := by
  obtain ⟨last, hplay⟩ : ∃ last, tiltWindow.play opened resetAndShutdown = some last := ⟨_, rfl⟩
  obtain ⟨hsound, hcontrols, hstuck⟩ := tilt_controls (Machine.run_of_play hplay)
  have hlast := hplay
  cases hlast
  have hintime : (tiltWindow.traceOf opened resetAndShutdown).all
      (fun entry => !isSignal entry.2 || entry.1.controls.polling) = true := rfl
  refine ⟨_, hplay, hsound, hcontrols fun entry hentry hsignal => ?_, hstuck.mpr
    ⟨rfl, rfl, rfl, List.not_mem_nil, _, List.mem_cons_of_mem _ (List.mem_cons_of_mem _
      (List.mem_cons_of_mem _ List.mem_cons_self)), rfl⟩⟩
  have htest := List.all_eq_true.mp hintime entry hentry
  rw [hsignal] at htest
  exact htest

/-- Two requests are under way when the daemon has come online after the first one. -/
example : (tiltWindow.play opened [.pollStarts, .pollEnds (some true), .clickApply,
    .daemon (.daemonStatus true), .clickReset]).any
    (fun window => decide (tilts window.jobs = 2)) = true := rfl

/-- A poll that was under way when the daemon was reset enables the buttons after a shutdown. -/
example : (tiltWindow.play opened [.pollStarts, .pollEnds (some true),
    .daemon (.daemonStatus true), .pollStarts, .daemon .clickReset, .daemon .clickShutdown,
    .pollEnds (some true), .daemon (.daemonStatus true)]).any
    (fun window => window.applyBtn.enabled && !window.controls.polling) = true := rfl

end K4W.Gui.TiltControls
