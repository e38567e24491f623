import K4W.Library.Machine

/-!
# The daemon controls of the main window

The handlers of `MainWindow` that start, reset and shut down the daemon, with
the flags they share.  The root password is taken as given.  A reset stops the
sensor poll, and no handler lets it go on again.
-/

namespace K4W.Gui.DaemonControl

open K4W.Library

/-- `polling` is `m_enabled` of the sensor poll thread. -/
structure Controls where
  daemonOnline : Bool
  polling : Bool
  startEnabled : Bool
  resetEnabled : Bool
  shutdownEnabled : Bool
  pendingTimers : Nat
deriving DecidableEq, Repr

/-- What the constructor leaves; a new button is enabled. -/
def constructed : Controls where
  daemonOnline := false
  polling := true
  startEnabled := true
  resetEnabled := true
  shutdownEnabled := true
  pendingTimers := 0

def onStartDaemon (controls : Controls) : Controls :=
  if controls.daemonOnline then controls
  else { controls with startEnabled := false }

/-- The last step starts the timer of 15 seconds. -/
def onResetDaemon (controls : Controls) : Controls :=
  { controls with
    resetEnabled := false
    polling := false
    startEnabled := false
    pendingTimers := controls.pendingTimers + 1 }

def onShutdownDaemon (controls : Controls) : Controls :=
  { controls with
    daemonOnline := false
    startEnabled := true
    resetEnabled := false
    shutdownEnabled := false }

def daemonStatus (controls : Controls) (online : Bool) : Controls :=
  if online && !controls.daemonOnline then
    { controls with
      daemonOnline := true
      startEnabled := false
      resetEnabled := true
      shutdownEnabled := true }
  else if !online && controls.daemonOnline then
    { controls with
      daemonOnline := false
      startEnabled := true
      shutdownEnabled := false }
  else
    controls

/-- The function that `onResetDaemon` gives to its timer. -/
def resetTimeout (controls : Controls) : Controls :=
  let fired := { controls with pendingTimers := controls.pendingTimers - 1 }
  if fired.daemonOnline then fired
  else { fired with resetEnabled := true }

/-- A press of the status bar calls `onStartDaemon` whatever the button shows. -/
inductive Event where
  | clickStart
  | pressStatusBar
  | clickReset
  | clickShutdown
  | daemonStatus (online : Bool)
  | resetTimeout
deriving DecidableEq, Repr

def step (controls : Controls) : Event → Option Controls
  | .clickStart => if controls.startEnabled then some (onStartDaemon controls) else none
  | .pressStatusBar => some (onStartDaemon controls)
  | .clickReset => if controls.resetEnabled then some (onResetDaemon controls) else none
  | .clickShutdown =>
      if controls.shutdownEnabled then some (onShutdownDaemon controls) else none
  | .daemonStatus online =>
      if controls.polling then some (daemonStatus controls online) else none
  | .resetTimeout =>
      if 0 < controls.pendingTimers then some (resetTimeout controls) else none

def mainWindow : Machine Controls Event where
  Start controls := controls = constructed
  step := step

/-- With no timer pending, the daemon is polled and a running one can be reset. -/
def NeverBlind (controls : Controls) : Prop :=
  controls.pendingTimers = 0 →
    controls.polling = true ∧ (controls.daemonOnline = true → controls.resetEnabled = true)

/-- The reset button is not clicked. -/
def LeavesReset (_ : Controls) (event : Event) : Prop :=
  event ≠ .clickReset

instance (controls : Controls) (event : Event) : Decidable (LeavesReset controls event) :=
  inferInstanceAs (Decidable (_ ≠ _))

/-! ## What the handlers do to the flags -/

@[simp] theorem polling_onStartDaemon (controls : Controls) :
    (onStartDaemon controls).polling = controls.polling := by
  unfold onStartDaemon
  split <;> rfl

@[simp] theorem pendingTimers_onStartDaemon (controls : Controls) :
    (onStartDaemon controls).pendingTimers = controls.pendingTimers := by
  unfold onStartDaemon
  split <;> rfl

@[simp] theorem polling_daemonStatus (controls : Controls) (online : Bool) :
    (daemonStatus controls online).polling = controls.polling := by
  unfold daemonStatus
  split
  · rfl
  · split <;> rfl

@[simp] theorem pendingTimers_daemonStatus (controls : Controls) (online : Bool) :
    (daemonStatus controls online).pendingTimers = controls.pendingTimers := by
  unfold daemonStatus
  split
  · rfl
  · split <;> rfl

@[simp] theorem polling_resetTimeout (controls : Controls) :
    (resetTimeout controls).polling = controls.polling := by
  unfold resetTimeout
  dsimp only
  split <;> rfl

/-- Only a reset changes the polling, and it ends it. -/
theorem polling_step {controls next : Controls} {event : Event}
    (hstep : step controls event = some next) :
    (event = .clickReset ∧ next.polling = false) ∨
      (event ≠ .clickReset ∧ next.polling = controls.polling) := by
  cases event with
  | clickReset =>
      simp only [step] at hstep
      split at hstep <;> cases hstep
      exact .inl ⟨rfl, rfl⟩
  | pressStatusBar =>
      cases hstep
      exact .inr ⟨nofun, polling_onStartDaemon controls⟩
  | clickStart =>
      simp only [step] at hstep
      split at hstep <;> cases hstep
      exact .inr ⟨nofun, polling_onStartDaemon controls⟩
  | clickShutdown =>
      simp only [step] at hstep
      split at hstep <;> cases hstep
      exact .inr ⟨nofun, rfl⟩
  | daemonStatus online =>
      simp only [step] at hstep
      split at hstep <;> cases hstep
      exact .inr ⟨nofun, polling_daemonStatus controls online⟩
  | resetTimeout =>
      simp only [step] at hstep
      split at hstep <;> cases hstep
      exact .inr ⟨nofun, polling_resetTimeout controls⟩

/-- Without resets no timer is started, and a running daemon can be reset. -/
structure Sighted (controls : Controls) : Prop where
  noTimer : controls.pendingTimers = 0
  resettable : controls.daemonOnline = true → controls.resetEnabled = true

theorem sighted_onStartDaemon {controls : Controls} (hsighted : Sighted controls) :
    Sighted (onStartDaemon controls) := by
  unfold onStartDaemon
  split
  · exact hsighted
  · exact ⟨hsighted.noTimer, hsighted.resettable⟩

theorem sighted_step {controls next : Controls} {event : Event} (hsighted : Sighted controls)
    (hleaves : LeavesReset controls event) (hstep : step controls event = some next) :
    Sighted next := by
  cases event with
  | clickReset => exact absurd rfl hleaves
  | pressStatusBar =>
      cases hstep
      exact sighted_onStartDaemon hsighted
  | clickStart =>
      simp only [step] at hstep
      split at hstep <;> cases hstep
      exact sighted_onStartDaemon hsighted
  | clickShutdown =>
      simp only [step] at hstep
      split at hstep <;> cases hstep
      exact ⟨hsighted.noTimer, nofun⟩
  | daemonStatus online =>
      simp only [step] at hstep
      split at hstep <;> cases hstep
      refine ⟨(pendingTimers_daemonStatus controls online).trans hsighted.noTimer, ?_⟩
      unfold daemonStatus
      split
      · exact fun _ => rfl
      · split
        · exact nofun
        · exact hsighted.resettable
  | resetTimeout =>
      simp only [step, hsighted.noTimer] at hstep
      cases hstep

/-! ## Runs of the window -/

/-- The daemon is polled as long as no reset has been clicked, and never after. -/
theorem polling_run {first last : Controls} {trace : List (Controls × Event)}
    (hrun : mainWindow.Run first trace last) (hpolling : first.polling = true) :
    last.polling = true ↔ Machine.Meets LeavesReset trace := by
  induction hrun with
  | refl => exact ⟨fun _ => nofun, fun _ => hpolling⟩
  | @tail middle last trace event hprefix hstep ih =>
      rw [Machine.meets_append, Machine.meets_singleton, ← ih]
      rcases polling_step hstep with ⟨hreset, hlast⟩ | ⟨hreset, hlast⟩
      · rw [hlast]
        exact ⟨nofun, fun hboth => absurd hreset hboth.2⟩
      · rw [hlast]
        exact ⟨fun h => ⟨h, hreset⟩, fun hboth => hboth.1⟩

theorem sighted_run {last : Controls} {trace : List (Controls × Event)}
    (hrun : mainWindow.Run constructed trace last)
    (hmeets : Machine.Meets LeavesReset trace) : Sighted last :=
  hrun.preserves hmeets ⟨rfl, nofun⟩ sighted_step

/-- The window is not blind exactly while a timer is pending or before the first reset. -/
theorem neverBlind_iff_leavesReset {first last : Controls} {trace : List (Controls × Event)}
    (hstart : mainWindow.Start first) (hrun : mainWindow.Run first trace last) :
    NeverBlind last ↔ 0 < last.pendingTimers ∨ Machine.Meets LeavesReset trace := by
  subst hstart
  constructor
  · intro hblind
    rcases Nat.eq_zero_or_pos last.pendingTimers with hnone | hpending
    · exact .inr ((polling_run hrun rfl).mp (hblind hnone).1)
    · exact .inl hpending
  · rintro (hpending | hmeets) hnone
    · omega
    · exact ⟨(polling_run hrun rfl).mpr hmeets, (sighted_run hrun hmeets).resettable⟩

/-- The daemon comes up, is shut down and started anew. -/
theorem neverBlind_restarted : ∃ last,
    mainWindow.play constructed [.daemonStatus true, .clickShutdown, .clickStart,
      .daemonStatus true] = some last ∧ last.daemonOnline = true ∧ NeverBlind last := by
  have hplay : mainWindow.play constructed [.daemonStatus true, .clickShutdown, .clickStart,
      .daemonStatus true] = some { constructed with daemonOnline := true, startEnabled := false } :=
    rfl
  exact ⟨_, hplay, rfl,
    (neverBlind_iff_leavesReset rfl (Machine.run_of_play hplay)).mpr (.inr (by decide))⟩

/-- A daemon that is reset while online: the timer fires and nothing is enabled again. -/
theorem not_neverBlind_of_reset :
    ¬ ∀ controls, mainWindow.Reachable controls → NeverBlind controls := by
  intro hall
  let blind (controls : Controls) : Bool :=
    controls.pendingTimers = 0 && !controls.polling && controls.daemonOnline &&
      !controls.resetEnabled
  have hplay : (mainWindow.play constructed [.daemonStatus true, .clickReset,
      .resetTimeout]).any blind = true := by decide
  obtain ⟨controls, hreach, hblind⟩ := Machine.exists_reachable_of_play rfl hplay
  simp only [blind, Bool.and_eq_true, decide_eq_true_eq, Bool.not_eq_true'] at hblind
  obtain ⟨⟨⟨hnone, hpolling⟩, -⟩, -⟩ := hblind
  have hsees := (hall controls hreach hnone).1
  rw [hpolling] at hsees
  cases hsees

/-! ## Every reset ends blind -/

/-- All pending timers can fire one after the other. -/
theorem run_timeouts (controls : Controls) : ∃ trace last,
    mainWindow.Run controls trace last ∧ last.pendingTimers = 0 ∧
      last.polling = controls.polling := by
  induction hpending : controls.pendingTimers generalizing controls with
  | zero => exact ⟨[], controls, .refl controls, hpending, rfl⟩
  | succ pending ih =>
      have hcount : (resetTimeout controls).pendingTimers = pending := by
        unfold resetTimeout
        dsimp only
        split <;> exact (congrArg (· - 1) hpending).trans rfl
      obtain ⟨trace, last, hrun, hnone, hpolling⟩ := ih _ hcount
      have hfire : mainWindow.step controls .resetTimeout = some (resetTimeout controls) :=
        if_pos (by omega)
      exact ⟨_, last, (Machine.Run.single hfire).trans hrun, hnone,
        hpolling.trans (polling_resetTimeout controls)⟩

/-- After any reset the window is blind when its timers have fired. -/
theorem exists_blind_of_reset {first last : Controls} {trace : List (Controls × Event)}
    (hstart : mainWindow.Start first) (hrun : mainWindow.Run first trace last)
    (hreset : ¬Machine.Meets LeavesReset trace) :
    ∃ later, mainWindow.Reaches last later ∧ ¬NeverBlind later := by
  have hstopped : last.polling = false := by
    subst hstart
    exact Bool.eq_false_iff.mpr fun h => hreset ((polling_run hrun rfl).mp h)
  obtain ⟨back, later, hback, hnone, hpolling⟩ := run_timeouts last
  refine ⟨later, ⟨back, hback⟩, fun hblind => ?_⟩
  have hsees := (hblind hnone).1
  rw [hpolling, hstopped] at hsees
  cases hsees

end K4W.Gui.DaemonControl
