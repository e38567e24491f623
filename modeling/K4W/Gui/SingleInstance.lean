import Mathlib.Logic.Function.Basic
import K4W.Library.Machine

/-!
# The single instance of the control window

`main` of the window reads a PID file, and shows the instance that it names over a
local socket; otherwise it removes both, listens, and writes its own PID.  Every
call on the file and on the socket is one step, and may fail: `main` looks at the
results of `open` and `waitForConnected`, and at no others.  A socket whose
listener has gone stays in the file system and refuses connections.
-/

namespace K4W.Gui.SingleInstance

open K4W.Library

abbrev Pid := Nat

/--
Program points of one process.  `foreign` is a live process of another program,
and `window` is the event loop of an instance.
-/
inductive Phase where
  | absent
  | foreign
  | openPidFile
  | checkOldPid (oldPid : Nat)
  | removePidFile
  | removeSocket
  | removeServer
  | listen
  | createPidFile
  | writePid
  | window
  | cleanPidFile
  | cleanSocket
  | closeServer
deriving DecidableEq, Repr

/-- The process is in the middle of its start or of its end. -/
def Phase.isBusy : Phase → Bool
  | .absent | .foreign | .window => false
  | .openPidFile | .checkOldPid _ | .removePidFile | .removeSocket | .removeServer | .listen
  | .createPidFile | .writePid | .cleanPidFile | .cleanSocket | .closeServer => true

/--
`pidFile` is the number in the PID file, 0 for none.  `socket` is the listener of
the socket file, if it still listens.
-/
structure State where
  phase : Pid → Phase
  pidFile : Option Nat
  socket : Option (Option Pid)
  /-- Whose `server` listens, with its file or without. -/
  listening : Pid → Bool
  /-- Who was told to show its window, the last one first. -/
  shown : List Pid

/-- What a step finds besides the files. -/
structure Outcome where
  /-- A PID file that exists can be opened for reading. -/
  readable : Bool
  /-- `kill` may signal the process, if there is one. -/
  signalled : Bool
  /-- A socket that listens takes the connection in time. -/
  connected : Bool
  /-- A file that exists can be removed. -/
  removed : Bool
  /-- `listen` succeeds where no file is in its way. -/
  bound : Bool
  /-- The PID file can be opened for writing. -/
  opened : Bool
  /-- The PID is written. -/
  written : Bool
deriving DecidableEq, Repr

/-- What a file is after a call that removes it. -/
def Outcome.left {α : Type} (outcome : Outcome) (file : Option α) : Option α :=
  if outcome.removed then none else file

def State.at (state : State) (pid : Pid) (next : Phase) : State :=
  { state with phase := Function.update state.phase pid next }

/-- The process is gone, and so is its listener. -/
def State.ended (state : State) (pid : Pid) : State :=
  { state.at pid .absent with
    socket := if state.socket = some (some pid) then some none else state.socket
    listening := Function.update state.listening pid false }

/-- `kill(pid, 0) == 0` -/
def isProcessAlive (state : State) (outcome : Outcome) (pid : Pid) : Bool :=
  state.phase pid != .absent && outcome.signalled

/-- `connectToServer`, when the process in the PID file is alive. -/
def connectToServer (state : State) (pid : Pid) (outcome : Outcome) : State :=
  match state.socket with
  | some (some server) =>
      if outcome.connected then { state.ended pid with shown := server :: state.shown }
      else state.at pid .removePidFile
  | some none | none => state.at pid .removePidFile

/-- `listen` fails on a file that exists, and `main` goes on. -/
def listen (state : State) (pid : Pid) (outcome : Outcome) : State :=
  if state.socket = none ∧ outcome.bound then
    { state.at pid .createPidFile with
      socket := some (some pid)
      listening := Function.update state.listening pid true }
  else state.at pid .createPidFile

/-- The destructor of `server`, which removes the file by its name if it listens. -/
def closeServer (state : State) (pid : Pid) (outcome : Outcome) : State :=
  if state.listening pid then
    { state.ended pid with socket := outcome.left (state.ended pid).socket }
  else state.ended pid

/-- One step of `main`, before the event loop or after it. -/
def mainStep (state : State) (pid : Pid) (outcome : Outcome) : Option State :=
  match state.phase pid with
  | .openPidFile =>
      match state.pidFile with
      | none => some (state.at pid .removeServer)
      | some oldPid =>
          if outcome.readable then some (state.at pid (.checkOldPid oldPid))
          else some (state.at pid .removeServer)
  | .checkOldPid oldPid =>
      if 0 < oldPid ∧ isProcessAlive state outcome oldPid then
        some (connectToServer state pid outcome)
      else some (state.at pid .removePidFile)
  | .removePidFile =>
      some { state.at pid .removeSocket with pidFile := outcome.left state.pidFile }
  | .removeSocket =>
      some { state.at pid .removeServer with socket := outcome.left state.socket }
  | .removeServer => some { state.at pid .listen with socket := outcome.left state.socket }
  | .listen => some (listen state pid outcome)
  | .createPidFile =>
      if outcome.opened then some { state.at pid .writePid with pidFile := some 0 }
      else some (state.at pid .window)
  | .writePid =>
      if outcome.written then some { state.at pid .window with pidFile := some pid }
      else some (state.at pid .window)
  | .cleanPidFile =>
      some { state.at pid .cleanSocket with pidFile := outcome.left state.pidFile }
  | .cleanSocket =>
      some { state.at pid .closeServer with socket := outcome.left state.socket }
  | .closeServer => some (closeServer state pid outcome)
  | .absent | .foreign | .window => none

inductive Action where
  | start (pid : Pid)
  | startForeign (pid : Pid)
  | run (pid : Pid) (outcome : Outcome)
  /-- The event loop returns. -/
  | quit (pid : Pid)
  /-- A process of any program ends, wherever it is. -/
  | crash (pid : Pid)
deriving DecidableEq, Repr

def step (state : State) : Action → Option State
  | .start pid =>
      if 0 < pid ∧ state.phase pid = .absent then some (state.at pid .openPidFile) else none
  | .startForeign pid =>
      if 0 < pid ∧ state.phase pid = .absent then some (state.at pid .foreign) else none
  | .run pid outcome => mainStep state pid outcome
  | .quit pid => if state.phase pid = .window then some (state.at pid .cleanPidFile) else none
  | .crash pid => if state.phase pid = .absent then none else some (state.ended pid)

/-- No process, and files that an earlier session may have left. -/
structure Cold (state : State) : Prop where
  process : ∀ pid, state.phase pid = .absent
  listener : ∀ pid, state.socket ≠ some (some pid)
  server : ∀ pid, state.listening pid = false

/-- Instances that start, run, end, and crash over the two files. -/
def instances : Machine State Action where
  Start := Cold
  step := step

/--
The calls whose failure `main` takes for a stale PID, or ignores, succeed.  The
removals of the PID file, and of the socket before `removeServer` and at the end,
may fail.
-/
def Suffices (state : State) (pid : Pid) (outcome : Outcome) : Prop :=
  match state.phase pid with
  | .openPidFile => outcome.readable = true
  | .checkOldPid oldPid =>
      (state.phase oldPid = .window → outcome.signalled = true) ∧ outcome.connected = true
  | .removeServer => outcome.removed = true
  | .listen => outcome.bound = true
  | .createPidFile => outcome.opened = true
  | .writePid => outcome.written = true
  | .absent | .foreign | .removePidFile | .removeSocket | .window | .cleanPidFile | .cleanSocket
  | .closeServer => True

/-- A start and an end are not interleaved with others, and their calls suffice. -/
def Alone (state : State) : Action → Prop
  | .start _ | .quit _ => ∀ other, (state.phase other).isBusy = false
  | .run pid outcome =>
      Suffices state pid outcome ∧ ∀ other, other ≠ pid → (state.phase other).isBusy = false
  | .startForeign _ | .crash _ => True

/-! ## The invariant -/

def NoWindow (state : State) : Prop :=
  ∀ pid, state.phase pid ≠ .window

/-- The files are those of the window, if there is one. -/
structure Settled (state : State) : Prop where
  window : ∀ pid, state.phase pid = .window →
    state.pidFile = some pid ∧ state.socket = some (some pid)
  listener : ∀ pid, state.socket = some (some pid) → state.phase pid = .window

/-- No window, and nobody listens. -/
structure Deserted (state : State) : Prop where
  window : NoWindow state
  listener : ∀ pid, state.socket ≠ some (some pid)

/-- No window, and nobody but the process listens. -/
structure Claimed (state : State) (pid : Pid) : Prop where
  window : NoWindow state
  listener : ∀ other, state.socket = some (some other) → other = pid

/-- What holds while a process is at a program point, and the others are not busy. -/
def Fits (state : State) (pid : Pid) : Phase → Prop
  | .absent | .foreign | .window | .openPidFile => Settled state
  | .checkOldPid oldPid => Settled state ∧ ∀ other, state.phase other = .window → oldPid = other
  | .removePidFile | .removeSocket | .removeServer => Deserted state
  | .listen => NoWindow state ∧ state.socket = none
  | .createPidFile | .writePid => NoWindow state ∧ state.socket = some (some pid)
  | .cleanPidFile | .cleanSocket | .closeServer => Claimed state pid

/-- One process at most is busy, and the files are as they are at its point. -/
structure Orderly (state : State) : Prop where
  positive : ∀ pid, state.phase pid ≠ .absent → 0 < pid
  busy : ∃ pid, (∀ other, other ≠ pid → (state.phase other).isBusy = false) ∧
    Fits state pid (state.phase pid)

section Phases

variable {state : State} {pid other : Pid} {next : Phase}

@[simp] theorem at_phase_self : (state.at pid next).phase pid = next :=
  Function.update_self _ _ _

theorem at_phase_of_ne (hne : other ≠ pid) :
    (state.at pid next).phase other = state.phase other :=
  Function.update_of_ne hne _ _

theorem noWindow_at (hwindow : NoWindow state) (hnext : next ≠ .window) :
    NoWindow (state.at pid next) := by
  intro other
  by_cases hsame : other = pid
  · rw [hsame, at_phase_self]
    exact hnext
  · rw [at_phase_of_ne hsame]
    exact hwindow other

/-- A process that was no window and is none leaves the files settled. -/
theorem settled_at (hsettled : Settled state) (hbefore : state.phase pid ≠ .window)
    (hnext : next ≠ .window) : Settled (state.at pid next) := by
  constructor
  · intro other hwindow
    by_cases hsame : other = pid
    · rw [hsame, at_phase_self] at hwindow
      exact absurd hwindow hnext
    · rw [at_phase_of_ne hsame] at hwindow
      exact hsettled.window other hwindow
  · intro other hlistens
    have hwindow := hsettled.listener other hlistens
    have hne : other ≠ pid := by
      rintro rfl
      exact hbefore hwindow
    rwa [at_phase_of_ne hne]

theorem Settled.deserted (hsettled : Settled state) (hwindow : NoWindow state) :
    Deserted state :=
  ⟨hwindow, fun other hlistens => hwindow other (hsettled.listener other hlistens)⟩

theorem Deserted.settled (hdeserted : Deserted state) : Settled state :=
  ⟨fun other hwindow => (hdeserted.window other hwindow).elim,
    fun other hlistens => (hdeserted.listener other hlistens).elim⟩

theorem Deserted.at (hdeserted : Deserted state) (hnext : next ≠ .window) :
    Deserted (state.at pid next) :=
  ⟨noWindow_at hdeserted.window hnext, hdeserted.listener⟩

/-- The listener of an ended process is gone. -/
theorem ended_listener (hlistens : (state.ended pid).socket = some (some other)) :
    state.socket = some (some other) ∧ other ≠ pid := by
  change (if state.socket = some (some pid) then some none else state.socket) = _ at hlistens
  split at hlistens
  case isTrue => cases hlistens
  case isFalse hnot =>
      refine ⟨hlistens, ?_⟩
      rintro rfl
      exact hnot hlistens

theorem ended_socket (hnot : state.socket ≠ some (some pid)) :
    (state.ended pid).socket = state.socket :=
  if_neg hnot

theorem ended_phase : (state.ended pid).phase = (state.at pid .absent).phase :=
  rfl

theorem noWindow_ended (hwindow : NoWindow state) : NoWindow (state.ended pid) :=
  noWindow_at hwindow nofun

theorem settled_ended (hsettled : Settled state) : Settled (state.ended pid) := by
  constructor
  · intro other hwindow
    have hne : other ≠ pid := by
      rintro rfl
      rw [ended_phase, at_phase_self] at hwindow
      cases hwindow
    rw [ended_phase, at_phase_of_ne hne] at hwindow
    obtain ⟨hfile, hsocket⟩ := hsettled.window other hwindow
    refine ⟨hfile, ?_⟩
    rw [ended_socket, hsocket]
    rw [hsocket]
    exact fun hsame => hne (Option.some.inj (Option.some.inj hsame))
  · intro other hlistens
    obtain ⟨hbefore, hne⟩ := ended_listener hlistens
    rw [ended_phase, at_phase_of_ne hne]
    exact hsettled.listener other hbefore

theorem Deserted.ended (hdeserted : Deserted state) : Deserted (state.ended pid) :=
  ⟨noWindow_ended hdeserted.window,
    fun other hlistens => hdeserted.listener other (ended_listener hlistens).1⟩

theorem Claimed.ended (hclaimed : Claimed state pid) : Deserted (state.ended pid) := by
  refine ⟨noWindow_ended hclaimed.window, fun other hlistens => ?_⟩
  obtain ⟨hbefore, hne⟩ := ended_listener hlistens
  exact hne (hclaimed.listener other hbefore)

/-- A process without a window has deserted files, or listens itself. -/
theorem claimed_of_socket (hwindow : NoWindow state) (hsocket : state.socket = some (some pid)) :
    Claimed state pid := by
  refine ⟨hwindow, fun other hlistens => ?_⟩
  rw [hsocket] at hlistens
  exact (Option.some.inj (Option.some.inj hlistens)).symm

theorem deserted_of_socket (hwindow : NoWindow state) (hsocket : state.socket = none) :
    Deserted state := by
  refine ⟨hwindow, fun other hlistens => ?_⟩
  rw [hsocket] at hlistens
  cases hlistens

/-- Wherever a process ends, the files are settled after it. -/
theorem Fits.ended (hfits : Fits state pid next) : Settled (state.ended pid) := by
  cases next with
  | absent | foreign | window | openPidFile => exact settled_ended hfits
  | checkOldPid oldPid => exact settled_ended hfits.1
  | removePidFile | removeSocket | removeServer => exact (Deserted.ended hfits).settled
  | listen => exact (deserted_of_socket hfits.1 hfits.2).ended.settled
  | createPidFile | writePid => exact (claimed_of_socket hfits.1 hfits.2).ended.settled
  | cleanPidFile | cleanSocket | closeServer => exact (Claimed.ended hfits).settled

/-- The end of another process changes nothing for the busy one. -/
theorem Fits.ended_other (hfits : Fits state other next) (hne : other ≠ pid) :
    Fits (state.ended pid) other next := by
  cases next with
  | absent | foreign | window | openPidFile => exact settled_ended hfits
  | checkOldPid oldPid =>
      refine ⟨settled_ended hfits.1, fun third hwindow => hfits.2 third ?_⟩
      by_cases hsame : third = pid
      · rw [hsame, ended_phase, at_phase_self] at hwindow
        cases hwindow
      · rwa [ended_phase, at_phase_of_ne hsame] at hwindow
  | removePidFile | removeSocket | removeServer => exact Deserted.ended hfits
  | listen =>
      refine ⟨noWindow_ended hfits.1, ?_⟩
      rw [ended_socket, hfits.2]
      rw [hfits.2]
      nofun
  | createPidFile | writePid =>
      refine ⟨noWindow_ended hfits.1, ?_⟩
      rw [ended_socket, hfits.2]
      rw [hfits.2]
      exact fun hsame => hne (Option.some.inj (Option.some.inj hsame))
  | cleanPidFile | cleanSocket | closeServer =>
      exact ⟨noWindow_ended hfits.window,
        fun third hlistens => hfits.listener third (ended_listener hlistens).1⟩

end Phases

/-! ## Steps -/

section Steps

variable {state next : State} {pid : Pid} {outcome : Outcome}

theorem connectToServer_phase :
    ∃ phase, (connectToServer state pid outcome).phase = (state.at pid phase).phase := by
  unfold connectToServer
  split
  · split <;> exact ⟨_, rfl⟩
  all_goals exact ⟨_, rfl⟩

theorem listen_phase :
    (SingleInstance.listen state pid outcome).phase = (state.at pid .createPidFile).phase := by
  unfold SingleInstance.listen
  split <;> rfl

theorem closeServer_phase :
    (SingleInstance.closeServer state pid outcome).phase = (state.at pid .absent).phase := by
  unfold SingleInstance.closeServer
  split <;> rfl

/-- A step of `main` moves one process, which was alive. -/
theorem mainStep_phase (hstep : mainStep state pid outcome = some next) :
    (state.phase pid).isBusy = true ∧ ∃ phase, next.phase = (state.at pid phase).phase := by
  cases hphase : state.phase pid with
  | absent | foreign | window => simp [mainStep, hphase] at hstep
  | openPidFile =>
      refine ⟨rfl, ?_⟩
      rw [mainStep, hphase] at hstep
      dsimp only at hstep
      split at hstep
      · cases hstep
        exact ⟨_, rfl⟩
      · split at hstep <;> cases hstep <;> exact ⟨_, rfl⟩
  | checkOldPid oldPid =>
      refine ⟨rfl, ?_⟩
      rw [mainStep, hphase] at hstep
      dsimp only at hstep
      split at hstep <;> cases hstep
      · exact connectToServer_phase
      · exact ⟨_, rfl⟩
  | listen =>
      rw [mainStep, hphase] at hstep
      cases hstep
      exact ⟨rfl, _, listen_phase⟩
  | closeServer =>
      rw [mainStep, hphase] at hstep
      cases hstep
      exact ⟨rfl, _, closeServer_phase⟩
  | createPidFile | writePid =>
      refine ⟨rfl, ?_⟩
      rw [mainStep, hphase] at hstep
      dsimp only at hstep
      split at hstep <;> cases hstep <;> exact ⟨_, rfl⟩
  | removePidFile | removeSocket | removeServer | cleanPidFile | cleanSocket =>
      rw [mainStep, hphase] at hstep
      cases hstep
      exact ⟨rfl, _, rfl⟩

/-- Without a PID file there is no window. -/
theorem noWindow_of_no_pidFile (hsettled : Settled state) (hfile : state.pidFile = none) :
    NoWindow state := by
  intro other hwindow
  have hnamed := (hsettled.window other hwindow).1
  rw [hfile] at hnamed
  cases hnamed

/-- A window is alive. -/
theorem isProcessAlive_window (hwindow : state.phase pid = .window)
    (hsignalled : outcome.signalled = true) : isProcessAlive state outcome pid = true := by
  rw [isProcessAlive, hwindow, hsignalled]
  rfl

/-- A call that removes a file makes no listener. -/
theorem left_listener {other : Pid}
    (hlistens : outcome.left state.socket = some (some other)) :
    state.socket = some (some other) := by
  unfold Outcome.left at hlistens
  split at hlistens
  · cases hlistens
  · exact hlistens

theorem left_of_removed {α : Type} {file : Option α} (hremoved : outcome.removed = true) :
    outcome.left file = none :=
  if_pos hremoved

/-- Where a window listens, a start that reaches it ends; elsewhere it goes on. -/
theorem connectToServer_cases (hconnected : outcome.connected = true) :
    (∃ server, state.socket = some (some server) ∧ connectToServer state pid outcome =
        { state.ended pid with shown := server :: state.shown }) ∨
      (∀ server, state.socket ≠ some (some server)) ∧
        connectToServer state pid outcome = state.at pid .removePidFile := by
  unfold connectToServer
  split
  case h_1 server hsocket =>
      left
      exact ⟨server, hsocket, if_pos hconnected⟩
  all_goals
    next hsocket =>
      right
      refine ⟨fun server hserver => ?_, rfl⟩
      rw [hsocket] at hserver
      cases hserver

/-- The check of the old PID gives up before the window, or finds that there is none. -/
theorem checkOldPid_cases {oldPid : Nat} (hphase : state.phase pid = .checkOldPid oldPid)
    (hpositive : ∀ other, state.phase other ≠ .absent → 0 < other)
    (hfits : Fits state pid (.checkOldPid oldPid)) (hsuffices : Suffices state pid outcome)
    (hstep : mainStep state pid outcome = some next) :
    (∃ window, state.phase window = .window ∧
        next = { state.ended pid with shown := window :: state.shown }) ∨
      NoWindow state ∧ next = state.at pid .removePidFile := by
  obtain ⟨hsettled, hnames⟩ := hfits
  rw [Suffices, hphase] at hsuffices
  obtain ⟨hsignalled, hconnected⟩ := hsuffices
  rw [mainStep, hphase] at hstep
  dsimp only at hstep
  split at hstep
  case isTrue halive =>
      cases hstep
      have hanswers := @connectToServer_cases state pid outcome hconnected
      rcases hanswers with ⟨server, hsocket, hresult⟩ | ⟨hnone, hresult⟩
      · exact .inl ⟨server, hsettled.listener server hsocket, hresult⟩
      · refine .inr ⟨fun other hwindow => ?_, hresult⟩
        exact hnone other (hsettled.window other hwindow).2
  case isFalse hdead =>
      cases hstep
      refine .inr ⟨fun other hwindow => hdead ?_, rfl⟩
      have hsame := hnames other hwindow
      rw [hsame] at hsignalled ⊢
      exact ⟨hpositive other (by rw [hwindow]; nofun),
        isProcessAlive_window hwindow (hsignalled hwindow)⟩

theorem checkOldPid_fits {oldPid : Nat} (hphase : state.phase pid = .checkOldPid oldPid)
    (hpositive : ∀ other, state.phase other ≠ .absent → 0 < other)
    (hfits : Fits state pid (.checkOldPid oldPid)) (hsuffices : Suffices state pid outcome)
    (hstep : mainStep state pid outcome = some next) : Fits next pid (next.phase pid) := by
  rcases checkOldPid_cases hphase hpositive hfits hsuffices hstep with
    ⟨window, -, rfl⟩ | ⟨hwindow, rfl⟩
  · change Fits { state.ended pid with shown := window :: state.shown } pid
      ((state.at pid .absent).phase pid)
    rw [at_phase_self]
    have hended : Settled (state.ended pid) := settled_ended hfits.1
    exact ⟨hended.window, hended.listener⟩
  · rw [at_phase_self]
    exact (hfits.1.deserted hwindow).at nofun

/-- The window that a process opens is the only one, and the files are its own. -/
theorem settled_window (hwindow : NoWindow state) (hsocket : state.socket = some (some pid)) :
    Settled { state.at pid .window with pidFile := some pid } := by
  constructor
  · intro other hother
    by_cases hsame : other = pid
    · rw [hsame]
      exact ⟨rfl, hsocket⟩
    · change (state.at pid .window).phase other = .window at hother
      rw [at_phase_of_ne hsame] at hother
      exact absurd hother (hwindow other)
  · intro other hlistens
    change state.socket = some (some other) at hlistens
    rw [hsocket] at hlistens
    cases hlistens
    exact at_phase_self

theorem moved_phase {phase : Phase} (hphase : next.phase = (state.at pid phase).phase) :
    next.phase pid = phase := by
  rw [hphase]
  exact at_phase_self

/-- It is enough to know the point that a process has moved to. -/
theorem fits_moved {phase : Phase} (hphase : next.phase = (state.at pid phase).phase)
    (hfits : Fits next pid phase) : Fits next pid (next.phase pid) := by
  rw [moved_phase hphase]
  exact hfits

theorem openPidFile_fits (hphase : state.phase pid = .openPidFile) (hsettled : Settled state)
    (hsuffices : Suffices state pid outcome)
    (hstep : mainStep state pid outcome = some next) : Fits next pid (next.phase pid) := by
  have hbefore : state.phase pid ≠ .window := by
    rw [hphase]
    nofun
  rw [mainStep, hphase] at hstep
  dsimp only at hstep
  split at hstep
  case h_1 hfile =>
      cases hstep
      have hwindow := noWindow_of_no_pidFile hsettled hfile
      exact fits_moved rfl ((hsettled.deserted hwindow).at nofun)
  case h_2 oldPid hfile =>
      rw [Suffices, hphase] at hsuffices
      rw [if_pos hsuffices] at hstep
      cases hstep
      have hmoved : Settled (state.at pid (.checkOldPid oldPid)) :=
        settled_at hsettled hbefore nofun
      refine fits_moved rfl ⟨hmoved, fun other hwindow => ?_⟩
      have hnamed := (hmoved.window other hwindow).1
      change state.pidFile = some other at hnamed
      rw [hfile] at hnamed
      exact Option.some.inj hnamed

/-- What a step leaves to remove is still no listener. -/
theorem deserted_left {phase : Phase} (hdeserted : Deserted state) (hphase : phase ≠ .window) :
    Deserted { state.at pid phase with socket := outcome.left state.socket } :=
  ⟨noWindow_at hdeserted.window hphase,
    fun other hlistens => hdeserted.listener other (left_listener hlistens)⟩

theorem claimed_left {phase : Phase} (hclaimed : Claimed state pid) (hphase : phase ≠ .window) :
    Claimed { state.at pid phase with socket := outcome.left state.socket } pid :=
  ⟨noWindow_at hclaimed.window hphase,
    fun other hlistens => hclaimed.listener other (left_listener hlistens)⟩

theorem closeServer_settled (hclaimed : Claimed state pid) :
    Settled (SingleInstance.closeServer state pid outcome) := by
  have hended : Deserted (state.ended pid) := hclaimed.ended
  unfold SingleInstance.closeServer
  split
  · refine Deserted.settled ⟨hended.window, fun other hlistens => ?_⟩
    exact hended.listener other (left_listener hlistens)
  · exact hended.settled

/-- One step of the busy process keeps its files as they are at its point. -/
theorem Fits.mainStep (hpositive : ∀ other, state.phase other ≠ .absent → 0 < other)
    (hfits : Fits state pid (state.phase pid)) (hsuffices : Suffices state pid outcome)
    (hstep : mainStep state pid outcome = some next) : Fits next pid (next.phase pid) := by
  cases hphase : state.phase pid with
  | absent | foreign | window => simp [SingleInstance.mainStep, hphase] at hstep
  | openPidFile =>
      rw [hphase] at hfits
      exact openPidFile_fits hphase hfits hsuffices hstep
  | checkOldPid oldPid =>
      rw [hphase] at hfits
      exact checkOldPid_fits hphase hpositive hfits hsuffices hstep
  | removePidFile =>
      rw [hphase] at hfits
      rw [SingleInstance.mainStep, hphase] at hstep
      cases hstep
      exact fits_moved rfl ⟨noWindow_at hfits.window nofun, hfits.listener⟩
  | removeSocket =>
      rw [hphase] at hfits
      rw [SingleInstance.mainStep, hphase] at hstep
      cases hstep
      have hleft := @deserted_left state pid outcome .removeServer hfits nofun
      exact fits_moved rfl hleft
  | removeServer =>
      rw [hphase] at hfits
      rw [Suffices, hphase] at hsuffices
      rw [SingleInstance.mainStep, hphase] at hstep
      cases hstep
      exact fits_moved rfl ⟨noWindow_at hfits.window nofun, left_of_removed hsuffices⟩
  | listen =>
      rw [hphase] at hfits
      rw [Suffices, hphase] at hsuffices
      rw [SingleInstance.mainStep, hphase] at hstep
      cases hstep
      rw [SingleInstance.listen, if_pos ⟨hfits.2, hsuffices⟩]
      exact fits_moved rfl ⟨noWindow_at hfits.1 nofun, rfl⟩
  | createPidFile =>
      rw [hphase] at hfits
      rw [Suffices, hphase] at hsuffices
      rw [SingleInstance.mainStep, hphase] at hstep
      dsimp only at hstep
      rw [if_pos hsuffices] at hstep
      cases hstep
      exact fits_moved rfl ⟨noWindow_at hfits.1 nofun, hfits.2⟩
  | writePid =>
      rw [hphase] at hfits
      rw [Suffices, hphase] at hsuffices
      rw [SingleInstance.mainStep, hphase] at hstep
      dsimp only at hstep
      rw [if_pos hsuffices] at hstep
      cases hstep
      exact fits_moved rfl (settled_window hfits.1 hfits.2)
  | cleanPidFile =>
      rw [hphase] at hfits
      rw [SingleInstance.mainStep, hphase] at hstep
      cases hstep
      exact fits_moved rfl ⟨noWindow_at hfits.window nofun, hfits.listener⟩
  | cleanSocket =>
      rw [hphase] at hfits
      rw [SingleInstance.mainStep, hphase] at hstep
      cases hstep
      have hleft := @claimed_left state pid outcome .closeServer hfits nofun
      exact fits_moved rfl hleft
  | closeServer =>
      rw [hphase] at hfits
      rw [SingleInstance.mainStep, hphase] at hstep
      cases hstep
      exact fits_moved closeServer_phase (closeServer_settled hfits)

/-- When nobody is busy, the files are settled. -/
theorem Orderly.settled (horderly : Orderly state)
    (hquiet : ∀ other, (state.phase other).isBusy = false) : Settled state := by
  obtain ⟨pid, -, hfits⟩ := horderly.busy
  have hnot := hquiet pid
  cases hphase : state.phase pid with
  | absent | foreign | window =>
      rw [hphase] at hfits
      exact hfits
  | openPidFile | checkOldPid | removePidFile | removeSocket | removeServer | listen
  | createPidFile | writePid | cleanPidFile | cleanSocket | closeServer =>
      rw [hphase] at hnot
      cases hnot

/-- The files are as they are at the point of any process that is alone. -/
theorem Orderly.fits (horderly : Orderly state)
    (hquiet : ∀ other, other ≠ pid → (state.phase other).isBusy = false) :
    Fits state pid (state.phase pid) := by
  obtain ⟨busy, hothers, hfits⟩ := horderly.busy
  by_cases hsame : pid = busy
  · rw [hsame]
    exact hfits
  · have hown := hothers pid hsame
    have hall : ∀ other, (state.phase other).isBusy = false := by
      intro other
      by_cases hother : other = pid
      · rw [hother]
        exact hown
      · exact hquiet other hother
    have hsettled := horderly.settled hall
    cases hphase : state.phase pid with
    | absent | foreign | window => exact hsettled
    | openPidFile | checkOldPid | removePidFile | removeSocket | removeServer | listen
    | createPidFile | writePid | cleanPidFile | cleanSocket | closeServer =>
        rw [hphase] at hown
        cases hown

/-- The others stay as quiet as they were. -/
theorem quiet_moved {phase : Phase} (hphase : next.phase = (state.at pid phase).phase)
    (hquiet : ∀ other, other ≠ pid → (state.phase other).isBusy = false) :
    ∀ other, other ≠ pid → (next.phase other).isBusy = false := by
  intro other hne
  rw [hphase, at_phase_of_ne hne]
  exact hquiet other hne

theorem positive_moved {phase : Phase} (hphase : next.phase = (state.at pid phase).phase)
    (hpositive : ∀ other, state.phase other ≠ .absent → 0 < other) (hpid : 0 < pid) :
    ∀ other, next.phase other ≠ .absent → 0 < other := by
  intro other halive
  by_cases hsame : other = pid
  · rw [hsame]
    exact hpid
  · rw [hphase, at_phase_of_ne hsame] at halive
    exact hpositive other halive

theorem Orderly.run (horderly : Orderly state)
    (hquiet : ∀ other, other ≠ pid → (state.phase other).isBusy = false)
    (hsuffices : Suffices state pid outcome) (hstep : mainStep state pid outcome = some next) :
    Orderly next := by
  obtain ⟨hbusy, phase, hphase⟩ := mainStep_phase hstep
  have hpid : 0 < pid := by
    apply horderly.positive
    intro habsent
    rw [habsent] at hbusy
    cases hbusy
  exact ⟨positive_moved hphase horderly.positive hpid, pid, quiet_moved hphase hquiet,
    (horderly.fits hquiet).mainStep horderly.positive hsuffices hstep⟩

theorem Orderly.crash (horderly : Orderly state) (halive : state.phase pid ≠ .absent) :
    Orderly (state.ended pid) := by
  have hpositive := @positive_moved state (state.ended pid) pid .absent rfl horderly.positive
    (horderly.positive pid halive)
  refine ⟨hpositive, ?_⟩
  obtain ⟨busy, hothers, hfits⟩ := horderly.busy
  by_cases hsame : busy = pid
  · subst hsame
    exact ⟨busy, quiet_moved rfl hothers, fits_moved rfl hfits.ended⟩
  · refine ⟨busy, fun other hne => ?_, ?_⟩
    · by_cases hother : other = pid
      · rw [hother, ended_phase, at_phase_self]
        rfl
      · rw [ended_phase, at_phase_of_ne hother]
        exact hothers other hne
    · rw [ended_phase, at_phase_of_ne hsame]
      exact hfits.ended_other hsame

/-- A process comes up in a state where nobody is busy. -/
theorem Orderly.started (horderly : Orderly state) (hpid : 0 < pid)
    (hquiet : ∀ other, (state.phase other).isBusy = false) (habsent : state.phase pid = .absent) :
    Orderly (state.at pid .openPidFile) := by
  have hbefore : state.phase pid ≠ .window := by
    rw [habsent]
    nofun
  have hsettled : Settled (state.at pid .openPidFile) :=
    settled_at (horderly.settled hquiet) hbefore nofun
  exact ⟨positive_moved rfl horderly.positive hpid, pid,
    quiet_moved rfl fun other _ => hquiet other, fits_moved rfl hsettled⟩

/-- A window that is closed was the only one. -/
theorem Orderly.closed (horderly : Orderly state)
    (hquiet : ∀ other, (state.phase other).isBusy = false) (hphase : state.phase pid = .window) :
    Orderly (state.at pid .cleanPidFile) := by
  have hsettled := horderly.settled hquiet
  have hpid : 0 < pid := horderly.positive pid (by rw [hphase]; nofun)
  have hown := (hsettled.window pid hphase).2
  have hclaimed : Claimed (state.at pid .cleanPidFile) pid := by
    refine claimed_of_socket (fun other hwindow => ?_) hown
    by_cases hsame : other = pid
    · rw [hsame, at_phase_self] at hwindow
      cases hwindow
    · rw [at_phase_of_ne hsame] at hwindow
      have hother := (hsettled.window other hwindow).2
      rw [hown] at hother
      exact hsame (Option.some.inj (Option.some.inj hother)).symm
  exact ⟨positive_moved rfl horderly.positive hpid, pid,
    quiet_moved rfl fun other _ => hquiet other, fits_moved rfl hclaimed⟩

/-- Another program changes nothing for the busy process. -/
theorem Fits.foreign {busy : Pid} {phase : Phase} (hfits : Fits state busy phase)
    (habsent : state.phase pid = .absent) : Fits (state.at pid .foreign) busy phase := by
  have hbefore : state.phase pid ≠ .window := by
    rw [habsent]
    nofun
  cases phase with
  | absent | foreign | window | openPidFile => exact settled_at hfits hbefore nofun
  | checkOldPid oldPid =>
      refine ⟨settled_at hfits.1 hbefore nofun, fun other hwindow => hfits.2 other ?_⟩
      by_cases hsame : other = pid
      · rw [hsame, at_phase_self] at hwindow
        cases hwindow
      · rwa [at_phase_of_ne hsame] at hwindow
  | removePidFile | removeSocket | removeServer => exact Deserted.at hfits nofun
  | listen | createPidFile | writePid => exact ⟨noWindow_at hfits.1 nofun, hfits.2⟩
  | cleanPidFile | cleanSocket | closeServer =>
      exact ⟨noWindow_at hfits.window nofun, hfits.listener⟩

/-- Another program comes up, at any time. -/
theorem Orderly.startedForeign (horderly : Orderly state) (hpid : 0 < pid)
    (habsent : state.phase pid = .absent) : Orderly (state.at pid .foreign) := by
  refine ⟨positive_moved rfl horderly.positive hpid, ?_⟩
  obtain ⟨busy, hothers, hfits⟩ := horderly.busy
  by_cases hsame : busy = pid
  · subst hsame
    rw [habsent] at hfits
    have hsettled : Settled (state.at busy .foreign) := hfits.foreign habsent
    exact ⟨busy, quiet_moved rfl hothers, fits_moved rfl hsettled⟩
  · refine ⟨busy, fun other hne => ?_, ?_⟩
    · by_cases hother : other = pid
      · rw [hother, at_phase_self]
        rfl
      · rw [at_phase_of_ne hother]
        exact hothers other hne
    · rw [at_phase_of_ne hsame]
      exact hfits.foreign habsent

theorem Orderly.of_step {action : Action} (horderly : Orderly state) (halone : Alone state action)
    (hstep : instances.step state action = some next) : Orderly next := by
  cases action with
  | start pid =>
      simp only [instances, step] at hstep
      split at hstep
      case isTrue hpid =>
          cases hstep
          exact horderly.started hpid.1 halone hpid.2
      case isFalse => cases hstep
  | startForeign pid =>
      simp only [instances, step] at hstep
      split at hstep
      case isTrue hpid =>
          cases hstep
          exact horderly.startedForeign hpid.1 hpid.2
      case isFalse => cases hstep
  | run pid outcome => exact horderly.run halone.2 halone.1 hstep
  | quit pid =>
      simp only [instances, step] at hstep
      split at hstep
      case isTrue hphase =>
          cases hstep
          exact horderly.closed halone hphase
      case isFalse => cases hstep
  | crash pid =>
      simp only [instances, step] at hstep
      split at hstep
      case isTrue => cases hstep
      case isFalse halive =>
          cases hstep
          exact horderly.crash halive

theorem orderly_cold (hcold : Cold state) : Orderly state := by
  refine ⟨fun pid halive => absurd (hcold.process pid) halive, 0, fun other _ => ?_, ?_⟩
  · rw [hcold.process other]
    rfl
  · rw [hcold.process 0]
    refine Deserted.settled ⟨fun other hwindow => ?_, hcold.listener⟩
    rw [hcold.process other] at hwindow
    cases hwindow

end Steps

/-! ## Windows over whole runs -/

/-- At most one window, and a start that gives up has shown it. -/
structure Exclusive (state : State) : Prop where
  single : ∀ first second, state.phase first = .window → state.phase second = .window →
    first = second
  /-- When no process starts or ends, the files are those of the window. -/
  settled : (∀ pid, (state.phase pid).isBusy = false) → Settled state
  /-- A process that checks the old PID, with nobody else busy, ends exactly when there is a
  window, and that one is shown. -/
  defers : ∀ pid oldPid outcome next, state.phase pid = .checkOldPid oldPid →
    (∀ other, other ≠ pid → (state.phase other).isBusy = false) →
    Suffices state pid outcome → mainStep state pid outcome = some next →
      (NoWindow state ∧ next.phase pid = .removePidFile ∧ next.shown = state.shown) ∨
        ∃ window, state.phase window = .window ∧ next.phase pid = .absent ∧
          next.shown = window :: state.shown

/-- Whatever its calls return, the process by itself gets to its event loop. -/
inductive Opens (pid : Pid) : State → Prop where
  | window {state : State} (hphase : state.phase pid = .window) : Opens pid state
  | step {state : State} (hstep : ∀ outcome, (mainStep state pid outcome).isSome = true)
      (hnext : ∀ outcome next, mainStep state pid outcome = some next → Opens pid next) :
      Opens pid state

section Windows

variable {state next : State} {pid : Pid}

theorem Fits.window {phase : Phase} (hfits : Fits state pid phase) {other : Pid}
    (hwindow : state.phase other = .window) : state.socket = some (some other) := by
  cases phase with
  | absent | foreign | window | openPidFile => exact (Settled.window hfits other hwindow).2
  | checkOldPid oldPid => exact (hfits.1.window other hwindow).2
  | removePidFile | removeSocket | removeServer =>
      exact absurd hwindow (Deserted.window hfits other)
  | listen | createPidFile | writePid => exact absurd hwindow (hfits.1 other)
  | cleanPidFile | cleanSocket | closeServer => exact absurd hwindow (Claimed.window hfits other)

theorem Orderly.exclusive (horderly : Orderly state) : Exclusive state := by
  constructor
  · intro first second hfirst hsecond
    obtain ⟨pid, -, hfits⟩ := horderly.busy
    have hlistens := hfits.window hfirst
    rw [hfits.window hsecond] at hlistens
    exact (Option.some.inj (Option.some.inj hlistens)).symm
  · exact horderly.settled
  · intro pid oldPid outcome next hphase hquiet hsuffices hstep
    have hfits := horderly.fits hquiet
    rw [hphase] at hfits
    rcases checkOldPid_cases hphase horderly.positive hfits hsuffices hstep with
      ⟨window, hwindow, rfl⟩ | ⟨hwindow, rfl⟩
    · exact .inr ⟨window, hwindow, at_phase_self, rfl⟩
    · exact .inl ⟨hwindow, at_phase_self, rfl⟩

/-- A process on its way through `main` is never stuck. -/
theorem mainStep_isSome (hbusy : (state.phase pid).isBusy = true) (outcome : Outcome) :
    (mainStep state pid outcome).isSome = true := by
  unfold mainStep
  split
  case h_1 =>
      split
      · rfl
      · split <;> rfl
  case h_2 => split <;> rfl
  case h_7 => split <;> rfl
  case h_8 => split <;> rfl
  case h_12 hphase | h_13 hphase | h_14 hphase =>
      rw [hphase] at hbusy
      cases hbusy
  all_goals rfl

theorem opens_of_next {phase : Phase} (hphase : state.phase pid = phase)
    (hbusy : phase.isBusy = true)
    (hnext : ∀ outcome next, mainStep state pid outcome = some next → Opens pid next) :
    Opens pid state := by
  rw [← hphase] at hbusy
  exact .step (mainStep_isSome hbusy) hnext

theorem opens_of_writePid (hphase : state.phase pid = .writePid) : Opens pid state := by
  refine opens_of_next hphase rfl fun outcome next hstep => ?_
  rw [mainStep, hphase] at hstep
  dsimp only at hstep
  split at hstep <;> cases hstep <;> exact .window (moved_phase rfl)

theorem opens_of_createPidFile (hphase : state.phase pid = .createPidFile) : Opens pid state := by
  refine opens_of_next hphase rfl fun outcome next hstep => ?_
  rw [mainStep, hphase] at hstep
  dsimp only at hstep
  split at hstep <;> cases hstep
  · exact opens_of_writePid (moved_phase rfl)
  · exact .window (moved_phase rfl)

theorem opens_of_listen (hphase : state.phase pid = .listen) : Opens pid state := by
  refine opens_of_next hphase rfl fun outcome next hstep => ?_
  rw [mainStep, hphase] at hstep
  cases hstep
  exact opens_of_createPidFile (moved_phase listen_phase)

theorem opens_of_removeServer (hphase : state.phase pid = .removeServer) : Opens pid state := by
  refine opens_of_next hphase rfl fun outcome next hstep => ?_
  rw [mainStep, hphase] at hstep
  cases hstep
  exact opens_of_listen (moved_phase rfl)

theorem opens_of_removeSocket (hphase : state.phase pid = .removeSocket) : Opens pid state := by
  refine opens_of_next hphase rfl fun outcome next hstep => ?_
  rw [mainStep, hphase] at hstep
  cases hstep
  exact opens_of_removeServer (moved_phase rfl)

theorem opens_of_removePidFile (hphase : state.phase pid = .removePidFile) : Opens pid state := by
  refine opens_of_next hphase rfl fun outcome next hstep => ?_
  rw [mainStep, hphase] at hstep
  cases hstep
  exact opens_of_removeSocket (moved_phase rfl)

/-- Where nobody listens, the old PID does not keep a process from its window. -/
theorem opens_of_checkOldPid {oldPid : Nat} (hphase : state.phase pid = .checkOldPid oldPid)
    (hlistener : ∀ other, state.socket ≠ some (some other)) : Opens pid state := by
  refine opens_of_next hphase rfl fun outcome next hstep => ?_
  have hrefused : connectToServer state pid outcome = state.at pid .removePidFile := by
    unfold connectToServer
    split
    case h_1 server hsocket => exact absurd hsocket (hlistener server)
    all_goals rfl
  rw [mainStep, hphase] at hstep
  dsimp only at hstep
  rw [hrefused, ite_self] at hstep
  cases hstep
  exact opens_of_removePidFile at_phase_self

theorem opens_of_openPidFile (hphase : state.phase pid = .openPidFile)
    (hlistener : ∀ other, state.socket ≠ some (some other)) : Opens pid state := by
  refine opens_of_next hphase rfl fun outcome next hstep => ?_
  rw [mainStep, hphase] at hstep
  dsimp only at hstep
  split at hstep
  · cases hstep
    exact opens_of_removeServer at_phase_self
  · split at hstep <;> cases hstep
    · exact opens_of_checkOldPid at_phase_self hlistener
    · exact opens_of_removeServer at_phase_self

/-- Whatever files are left, a start with nobody around ends with a window. -/
theorem Orderly.opens (horderly : Orderly state)
    (hquiet : ∀ other, (state.phase other).isBusy = false) (hwindow : NoWindow state)
    (hpid : 0 < pid) (habsent : state.phase pid = .absent) :
    ∃ next, instances.step state (.start pid) = some next ∧ Opens pid next := by
  have hdeserted := (horderly.settled hquiet).deserted hwindow
  exact ⟨_, if_pos ⟨hpid, habsent⟩, opens_of_openPidFile at_phase_self hdeserted.listener⟩

end Windows

/--
In every run whose starts and ends are not interleaved, and whose calls suffice,
over whatever files were left behind and with crashes anywhere, there is at most
one window, and the files are its own; a start that finds a PID gives up exactly
when there is a window, and shows it; and with nobody around, a start ends with a
window, whatever its calls return.
-/
theorem instances_exclusive {first state : State} {trace : List (State × Action)}
    (hstart : instances.Start first) (hrun : instances.Run first trace state)
    (hmeets : Machine.Meets Alone trace) :
    Exclusive state ∧
      ((∀ pid, (state.phase pid).isBusy = false) → NoWindow state →
        ∀ pid, 0 < pid → state.phase pid = .absent →
          ∃ next, instances.step state (.start pid) = some next ∧ Opens pid next) := by
  have horderly : Orderly state :=
    hrun.preserves hmeets (orderly_cold hstart) Orderly.of_step
  exact ⟨horderly.exclusive, fun hquiet hwindow pid => horderly.opens hquiet hwindow⟩

/-- A crash has left a PID that names no process, and a socket that nobody listens on. -/
def staleFiles : State := ⟨fun _ => .absent, some 5, some none, fun _ => false, []⟩

/-- The stale PID file is not removed, but the socket is before `listen`. -/
def stubborn : Outcome := ⟨true, true, true, false, true, true, true⟩

def willing : Outcome := { stubborn with removed := true }

/-- One instance opens its window over stale files, and a second one shows it and gives up. -/
def secondStart : List Action :=
  [.start 7, .run 7 willing, .run 7 willing, .run 7 stubborn, .run 7 stubborn, .run 7 willing,
    .run 7 willing, .run 7 willing, .run 7 willing, .start 8, .run 8 willing, .run 8 willing]

theorem secondStart_alone : Machine.Meets Alone (instances.traceOf staleFiles secondStart) := by
  simp [secondStart, Machine.Meets, Machine.traceOf, instances, step, mainStep, connectToServer,
    SingleInstance.listen, isProcessAlive, staleFiles, State.at, State.ended, Outcome.left, willing,
    stubborn, Alone, Suffices, Function.update_apply]
  have hquiet : ∀ other : Pid, (if other = 7 then Phase.window else .absent).isBusy = false := by
    intro other
    split <;> rfl
  have habsent : Phase.absent.isBusy = false := rfl
  simp +contextual only [habsent, hquiet, if_false, implies_true, and_self]

theorem phase_secondStart {state : State}
    (hplay : instances.play staleFiles secondStart = some state) (pid : Pid) :
    state.phase pid = if pid = 7 then .window else .absent := by
  have hphase : state.phase =
      Function.update (Function.update (fun _ => .absent) 7 .window) 8 .absent := by
    cases hplay
    funext other
    simp [connectToServer, SingleInstance.listen, staleFiles, State.at, State.ended, Outcome.left,
      willing, stubborn, Function.update_apply]
  rw [hphase, Function.update_apply, Function.update_apply]
  by_cases hsecond : pid = 8
  · rw [hsecond, if_pos rfl, if_neg (by decide)]
  · rw [if_neg hsecond]

/-- The second instance shows the window of the first; when that has crashed, a third one opens. -/
theorem instances_exclusive_secondStart : ∃ state,
    instances.play staleFiles secondStart = some state ∧ state.shown = [7] ∧
      Exclusive state ∧ instances.step state (.crash 7) = some (state.ended 7) ∧
      ∃ next, instances.step (state.ended 7) (.start 9) = some next ∧ Opens 9 next := by
  obtain ⟨state, hplay, hshown⟩ : ∃ state,
      instances.play staleFiles secondStart = some state ∧ state.shown = [7] := ⟨_, rfl, rfl⟩
  have hphase := phase_secondStart hplay
  have hcrash : instances.step state (.crash 7) = some (state.ended 7) :=
    if_neg (by rw [hphase, if_pos rfl]; nofun)
  have habsent : ∀ pid, (state.ended 7).phase pid = .absent := by
    intro pid
    change Function.update state.phase 7 .absent pid = .absent
    rw [Function.update_apply, hphase]
    split <;> rfl
  have hcold : instances.Start staleFiles := ⟨fun _ => rfl, fun _ => nofun, fun _ => rfl⟩
  have hrun := Machine.run_of_play hplay
  have hafter := instances_exclusive hcold (hrun.tail hcrash)
    (Machine.meets_append.mpr ⟨secondStart_alone, Machine.meets_singleton.mpr trivial⟩)
  refine ⟨state, hplay, hshown, (instances_exclusive hcold hrun secondStart_alone).1, hcrash,
    hafter.2 (fun pid => ?_) (fun pid => ?_) 9 (by decide) (habsent 9)⟩
  · rw [habsent]
    rfl
  · rw [habsent]
    nofun

end K4W.Gui.SingleInstance
