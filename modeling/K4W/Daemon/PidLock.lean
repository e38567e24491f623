import Mathlib.Logic.Function.Basic
import K4W.Library.Machine

/-!
# The PID file as a lock

`acquire_pid_lock` and `release_pid_lock` of `main.c`, run by any number of
daemon processes over one path.  Every file-system call is one step.  A file
keeps its identity after it is unlinked, so a process can still read or write
the file it opened when the path already names another one.
-/

namespace K4W.Daemon.PidLock

open K4W.Library

abbrev Pid := Nat
abbrev Inode := Nat

/--
Program points of one process.  `outside` is a live process that does not
touch the file: refused by `acquire_pid_lock`, or done with
`release_pid_lock`.  The points between creation and the final unlink
remember the file that was created.
-/
inductive Phase where
  | absent
  | openExcl
  | fopen
  | fscanf (file : Inode)
  | killTest (oldPid : Nat)
  | unlinkStale
  | reopen
  | writePid (gPidFd : Inode)
  | holding (gPidFd : Inode)
  | closeFd (gPidFd : Inode)
  | unlinkOwn (created : Inode)
  | outside
  deriving DecidableEq, Repr

/-- The file a live process has created and not yet unlinked on release. -/
def Phase.created : Phase → Option Inode
  | .writePid file | .holding file | .closeFd file | .unlinkOwn file => some file
  | _ => none

/-- `path` is what `/tmp/k4w.pid` names; `text` is the PID in a file, if any. -/
structure State where
  phase : Pid → Phase
  path : Option Inode
  text : Inode → Option Pid
  fresh : Inode

/-- `kill(pid, 0) == 0` -/
def State.alive (state : State) (pid : Pid) : Bool :=
  state.phase pid ≠ .absent

def State.at (state : State) (pid : Pid) (next : Phase) : State :=
  { state with phase := Function.update state.phase pid next }

/-- `open` with `O_CREAT | O_EXCL`: `busy` is where `EEXIST` leads. -/
def openCreate (state : State) (pid : Pid) (fault : Bool) (busy : Phase) : State :=
  if fault then state.at pid .outside
  else match state.path with
    | some _ => state.at pid busy
    | none =>
        { state.at pid (.writePid state.fresh) with
          path := some state.fresh
          text := Function.update state.text state.fresh none
          fresh := state.fresh + 1 }

def unlinkPath (state : State) (fault : Bool) : State :=
  if fault then state else { state with path := none }

/--
One step of a process inside `acquire_pid_lock` or `release_pid_lock`.  A
`fault` makes the system call of the step fail for a reason of its own.
-/
def pidLockStep (state : State) (pid : Pid) (fault : Bool) : Option State :=
  match state.phase pid with
  | .openExcl => some (openCreate state pid fault .fopen)
  | .fopen =>
      match fault, state.path with
      | false, some file => some (state.at pid (.fscanf file))
      | _, _ => some (state.at pid .unlinkStale)
  | .fscanf file =>
      -- `old_pid` keeps its initial 0 when the file holds no number yet
      let oldPid := if fault then 0 else (state.text file).getD 0
      some (state.at pid (.killTest oldPid))
  | .killTest oldPid =>
      if 0 < oldPid ∧ state.alive oldPid then some (state.at pid .outside)
      else some (state.at pid .unlinkStale)
  | .unlinkStale => some ((unlinkPath state fault).at pid .reopen)
  | .reopen => some (openCreate state pid fault .outside)
  | .writePid file =>
      -- the result of `write` is ignored
      let text := if fault then state.text else Function.update state.text file (some pid)
      some { state.at pid (.holding file) with text := text }
  | .closeFd file => some (state.at pid (.unlinkOwn file))
  | .unlinkOwn _ => some ((unlinkPath state fault).at pid .outside)
  | .absent | .holding _ | .outside => none

inductive Action where
  | start (pid : Pid)
  | run (pid : Pid) (fault : Bool)
  | release (pid : Pid)
  | exit (pid : Pid)
  deriving DecidableEq, Repr

def step (state : State) : Action → Option State
  | .start pid =>
      if 0 < pid ∧ state.phase pid = .absent then some (state.at pid .openExcl) else none
  | .run pid fault => pidLockStep state pid fault
  | .release pid =>
      match state.phase pid with
      | .holding file => some (state.at pid (.closeFd file))
      | _ => none
  | .exit pid =>
      if state.phase pid = .absent then none else some (state.at pid .absent)

def noProcess : State := ⟨fun _ => .absent, none, fun _ => none, 0⟩

/-- Daemon processes that start, run, and exit over one initially absent file. -/
def daemons : Machine State Action where
  Start state := state = noProcess
  step := step

/-- `acquire_pid_lock` has returned 0 and `release_pid_lock` is not yet called. -/
def Holds (state : State) (pid : Pid) : Prop :=
  ∃ file, state.phase pid = .holding file

def SingleDaemon (state : State) : Prop :=
  ∀ first second, Holds state first → Holds state second → first = second

/--
The path names no file that a live process has created and not yet unlinked:
what `unlink` in `acquire_pid_lock` takes for granted.
-/
def PathIsStale (state : State) : Prop :=
  ∀ pid file, (state.phase pid).created = some file → state.path ≠ some file

/-- Only a stale path is unlinked by `acquire_pid_lock`. -/
def UnlinksOnlyStale (state : State) : Action → Prop
  | .run pid false => state.phase pid = .unlinkStale → PathIsStale state
  | _ => True

/-! ## What one step does to the created files and the path -/

def State.created (state : State) (pid : Pid) : Option Inode :=
  (state.phase pid).created

@[simp] theorem at_created_self (state : State) (pid : Pid) (next : Phase) :
    (state.at pid next).created pid = next.created := by
  simp [State.created, State.at]

theorem at_created_of_ne (state : State) {pid other : Pid} (next : Phase)
    (hne : other ≠ pid) : (state.at pid next).created other = state.created other := by
  simp [State.created, State.at, hne]

@[simp] theorem at_path (state : State) (pid : Pid) (next : Phase) :
    (state.at pid next).path = state.path := rfl

/-- All that a step can do to the files created by live processes and the path. -/
inductive Effect (state next : State) : Prop where
  | keepsPath (pid : Pid)
      (others : ∀ other, other ≠ pid → next.created other = state.created other)
      (own : next.created pid = none ∨ next.created pid = state.created pid)
      (path : next.path = state.path)
  | creates (pid : Pid) (file : Inode)
      (others : ∀ other, other ≠ pid → next.created other = state.created other)
      (free : state.path = none)
      (own : next.created pid = some file)
      (path : next.path = some file)
  | unlinksStale (stale : PathIsStale state)
      (same : ∀ pid file, next.created pid = some file → state.created pid = some file)
  | unlinksOwn (pid : Pid) (file : Inode)
      (others : ∀ other, other ≠ pid → next.created other = state.created other)
      (had : state.created pid = some file)
      (own : next.created pid = none)

theorem effect_at (state : State) (pid : Pid) (next : Phase)
    (hown : next.created = none ∨ next.created = state.created pid) :
    Effect state (state.at pid next) := by
  refine .keepsPath pid (fun other => at_created_of_ne state next) ?_ rfl
  simpa using hown

/-- The exclusive `open` either moves on or creates at a free path. -/
theorem effect_openCreate (state : State) (pid : Pid) (fault : Bool) (busy : Phase)
    (hbusy : busy.created = none) : Effect state (openCreate state pid fault busy) := by
  unfold openCreate
  split
  · exact effect_at state pid .outside (.inl rfl)
  · split
    · exact effect_at state pid busy (.inl hbusy)
    · next hfree =>
        refine .creates pid state.fresh (fun other hne => ?_) hfree ?_ rfl
        · exact at_created_of_ne state (.writePid state.fresh) hne
        · exact at_created_self state pid (.writePid state.fresh)

theorem effect_of_pidLockStep {state next : State} {pid : Pid} {fault : Bool}
    (hmeets : UnlinksOnlyStale state (.run pid fault))
    (hstep : pidLockStep state pid fault = some next) : Effect state next := by
  unfold pidLockStep at hstep
  split at hstep
  case h_1 => cases hstep; exact effect_openCreate state pid fault .fopen rfl
  case h_2 =>
      split at hstep <;> cases hstep <;> exact effect_at state pid _ (.inl rfl)
  case h_3 => cases hstep; exact effect_at state pid _ (.inl rfl)
  case h_4 =>
      split at hstep <;> cases hstep <;> exact effect_at state pid _ (.inl rfl)
  case h_5 hphase =>
      cases hstep
      cases fault with
      | true => exact effect_at state pid _ (.inl rfl)
      | false =>
          refine .unlinksStale (hmeets hphase) (fun other file hfile => ?_)
          by_cases hother : other = pid
          · subst hother
            rw [at_created_self] at hfile
            cases hfile
          · rw [at_created_of_ne _ _ hother] at hfile
            exact hfile
  case h_6 => cases hstep; exact effect_openCreate state pid fault .outside rfl
  case h_7 file hphase =>
      cases hstep
      have hhad : state.created pid = some file := by simp [State.created, hphase, Phase.created]
      refine .keepsPath pid (fun other => at_created_of_ne state (.holding file)) (.inr ?_) rfl
      rw [hhad]
      exact at_created_self state pid (.holding file)
  case h_8 file hphase =>
      cases hstep
      have hhad : state.created pid = some file := by simp [State.created, hphase, Phase.created]
      exact effect_at state pid _ (.inr hhad.symm)
  case h_9 file hphase =>
      cases hstep
      have hhad : state.created pid = some file := by simp [State.created, hphase, Phase.created]
      refine .unlinksOwn pid file (fun other hne => ?_) hhad (at_created_self _ _ _)
      rw [at_created_of_ne _ _ hne]
      cases fault <;> rfl
  all_goals cases hstep

theorem effect_of_step {state next : State} {action : Action}
    (hmeets : UnlinksOnlyStale state action)
    (hstep : step state action = some next) : Effect state next := by
  cases action with
  | run pid fault => exact effect_of_pidLockStep hmeets hstep
  | start pid =>
      simp only [step] at hstep
      split at hstep <;> cases hstep
      exact effect_at state pid _ (.inl rfl)
  | release pid =>
      simp only [step] at hstep
      split at hstep
      · next file hphase =>
          cases hstep
          have hhad : state.created pid = some file := by
            simp [State.created, hphase, Phase.created]
          exact effect_at state pid _ (.inr hhad.symm)
      · cases hstep
  | exit pid =>
      simp only [step] at hstep
      split at hstep <;> cases hstep
      exact effect_at state pid _ (.inl rfl)

/-! ## The lock invariant -/

/-- At most one live process has a created file, and the path names that file. -/
structure LockInvariant (state : State) : Prop where
  named : ∀ pid file, state.created pid = some file → state.path = some file
  unique : ∀ first second file other, state.created first = some file →
    state.created second = some other → first = second

theorem lockInvariant_noProcess : LockInvariant noProcess :=
  ⟨fun _ _ h => (nomatch h), fun _ _ _ _ h => (nomatch h)⟩

/-- A process other than the one that moved kept its file. -/
theorem created_of_others {state next : State} {pid other : Pid} {file : Inode}
    (others : ∀ other, other ≠ pid → next.created other = state.created other)
    (own : next.created pid = none) (hfile : next.created other = some file) :
    state.created other = some file := by
  have hne : other ≠ pid := by
    rintro rfl
    rw [own] at hfile
    cases hfile
  rw [← others other hne]
  exact hfile

/-- A live process that kept its file keeps the invariant. -/
theorem lockInvariant_of_created_le {state next : State} (hinv : LockInvariant state)
    (hpath : ∀ pid file, next.created pid = some file → next.path = some file)
    (hle : ∀ pid file, next.created pid = some file → state.created pid = some file) :
    LockInvariant next :=
  ⟨hpath, fun first second file other hfirst hsecond =>
    hinv.unique first second file other (hle first file hfirst) (hle second other hsecond)⟩

theorem Effect.preserves {state next : State} (heffect : Effect state next)
    (hinv : LockInvariant state) : LockInvariant next := by
  cases heffect with
  | keepsPath pid others own path =>
      have hle : ∀ other file, next.created other = some file →
          state.created other = some file := by
        intro other file hfile
        by_cases hother : other = pid
        · subst hother
          rcases own with hnone | hsame
          · rw [hnone] at hfile
            cases hfile
          · rw [← hsame]
            exact hfile
        · rw [← others other hother]
          exact hfile
      refine lockInvariant_of_created_le hinv (fun other file hfile => ?_) hle
      rw [path]
      exact hinv.named other file (hle other file hfile)
  | creates pid file others free own path =>
      -- no live process can have a file while the path is free
      have hnone : ∀ other held, state.created other ≠ some held := by
        intro other held hheld
        have hnamed := hinv.named other held hheld
        rw [free] at hnamed
        cases hnamed
      have honly : ∀ other held, next.created other = some held → other = pid := by
        intro other held hheld
        by_contra hother
        rw [others other hother] at hheld
        exact hnone other held hheld
      refine ⟨fun other held hheld => ?_, fun first second held other hfirst hsecond => ?_⟩
      · have hother := honly other held hheld
        subst hother
        rw [path, ← own]
        exact hheld
      · rw [honly first held hfirst, honly second other hsecond]
  | unlinksStale stale same =>
      have hnone : ∀ pid file, next.created pid ≠ some file := by
        intro pid file hfile
        have hhad := same pid file hfile
        exact stale pid file hhad (hinv.named pid file hhad)
      exact ⟨fun pid file hfile => absurd hfile (hnone pid file),
        fun first _ file _ hfirst => absurd hfirst (hnone first file)⟩
  | unlinksOwn pid file others had own =>
      have hnone : ∀ other held, next.created other ≠ some held := by
        intro other held hheld
        have hbefore := created_of_others others own hheld
        have hsame := hinv.unique other pid held file hbefore had
        rw [hsame, own] at hheld
        cases hheld
      exact ⟨fun other held hheld => absurd hheld (hnone other held),
        fun first _ held _ hfirst => absurd hfirst (hnone first held)⟩

theorem LockInvariant.singleDaemon {state : State} (hinv : LockInvariant state) :
    SingleDaemon state := by
  rintro first second ⟨file, hfirst⟩ ⟨other, hsecond⟩
  refine hinv.unique first second file other ?_ ?_
  · simp [State.created, hfirst, Phase.created]
  · simp [State.created, hsecond, Phase.created]

/-- Along every run that unlinks only stale paths, one daemon at most holds the lock. -/
theorem singleDaemon_of_unlinksOnlyStale {first state : State}
    {trace : List (State × Action)} (hstart : daemons.Start first)
    (hrun : daemons.Run first trace state)
    (hmeets : Machine.Meets UnlinksOnlyStale trace) : SingleDaemon state := by
  subst hstart
  have hinv : LockInvariant state :=
    hrun.preserves hmeets lockInvariant_noProcess
      (fun hinv hcondition hstep => (effect_of_step hcondition hstep).preserves hinv)
  exact hinv.singleDaemon

/-- A crash leaves the PID file behind; the next daemon removes it and takes the lock. -/
def takeover : List Action :=
  [.start 7, .run 7 false, .run 7 false, .exit 7, .start 8, .run 8 false, .run 8 false,
    .run 8 false, .run 8 false, .run 8 false, .run 8 false, .run 8 false]

theorem takeover_unlinksOnlyStale :
    Machine.Meets UnlinksOnlyStale (daemons.traceOf noProcess takeover) := by
  simp [takeover, Machine.Meets, Machine.traceOf, daemons, step, pidLockStep, openCreate,
    unlinkPath, noProcess, State.at, State.alive, UnlinksOnlyStale, PathIsStale,
    Function.update_apply]
  intro pid file
  split <;> simp [Phase.created]

theorem singleDaemon_after_takeover : ∃ state,
    daemons.play noProcess takeover = some state ∧ Holds state 8 ∧ SingleDaemon state := by
  obtain ⟨state, hplay, hholds⟩ : ∃ state,
      daemons.play noProcess takeover = some state ∧ state.phase 8 = .holding 1 :=
    ⟨_, rfl, rfl⟩
  exact ⟨state, hplay, ⟨1, hholds⟩,
    singleDaemon_of_unlinksOnlyStale rfl (Machine.run_of_play hplay) takeover_unlinksOnlyStale⟩

/--
The second daemon meets the file before the first has written its PID, takes
it for stale, and both calls of `acquire_pid_lock` return 0.
-/
theorem not_singleDaemon_of_unwrittenPid :
    ¬ ∀ state, daemons.Reachable state → SingleDaemon state := by
  intro hall
  let actions : List Action :=
    [.start 7, .run 7 false, .start 8, .run 8 false, .run 8 false, .run 8 false,
      .run 8 false, .run 8 false, .run 8 false, .run 8 false, .run 7 false]
  let bothHold (state : State) : Bool :=
    state.phase 7 = .holding 0 ∧ state.phase 8 = .holding 1
  have hplay : (daemons.play noProcess actions).any bothHold = true := by decide
  obtain ⟨state, hreach, hboth⟩ := Machine.exists_reachable_of_play rfl hplay
  have hphases := of_decide_eq_true hboth
  have hsame := hall state hreach 7 8 ⟨0, hphases.1⟩ ⟨1, hphases.2⟩
  cases hsame

/-! ## Nothing weaker is enough -/

/-- Processes that are alive have been started, with a positive PID. -/
def PositivePids (state : State) : Prop :=
  ∀ pid, state.phase pid ≠ .absent → 0 < pid

theorem positivePids_at {state : State} (hpositive : PositivePids state) {pid : Pid}
    (hpid : 0 < pid) (next : Phase) : PositivePids (state.at pid next) := by
  intro other hother
  by_cases hsame : other = pid
  · rw [hsame]
    exact hpid
  · apply hpositive
    simpa [State.at, hsame] using hother

theorem pidLockStep_phase {state next : State} {pid : Pid} {fault : Bool}
    (hstep : pidLockStep state pid fault = some next) :
    state.phase pid ≠ .absent ∧ ∃ phase, next.phase = (state.at pid phase).phase := by
  unfold pidLockStep openCreate unlinkPath at hstep
  constructor
  · intro habsent
    rw [habsent] at hstep
    cases hstep
  · repeat' split at hstep
    all_goals first
      | cases hstep; exact ⟨_, rfl⟩
      | cases hstep

theorem positivePids_reachable {state : State} (hreach : daemons.Reachable state) :
    PositivePids state := by
  refine hreach.invariant ?_ ?_
  · rintro state rfl pid hpid
    exact absurd rfl hpid
  · intro state action next hpositive hstep
    cases action with
    | run pid fault =>
        obtain ⟨hlive, phase, hphase⟩ := pidLockStep_phase hstep
        have hmoved := positivePids_at hpositive (hpositive pid hlive) phase
        unfold PositivePids at hmoved ⊢
        rw [hphase]
        exact hmoved
    | start pid =>
        simp only [daemons, step] at hstep
        split at hstep
        · next hpid => cases hstep; exact positivePids_at hpositive hpid.1 _
        · cases hstep
    | release pid =>
        simp only [daemons, step] at hstep
        split at hstep
        · next file hphase =>
            cases hstep
            exact positivePids_at hpositive (hpositive pid (by simp [hphase])) _
        · cases hstep
    | exit pid =>
        simp only [daemons, step] at hstep
        split at hstep
        · cases hstep
        · next hphase => cases hstep; exact positivePids_at hpositive (hpositive pid hphase) _

/-- A process about to create at a free path gets the lock if nothing comes between. -/
theorem run_creates {state : State} {pid : Pid} (hfree : state.path = none)
    (hphase : state.phase pid = .reopen ∨ state.phase pid = .openExcl) :
    ∃ trace next, daemons.Run state trace next ∧
      next.phase = Function.update state.phase pid (.holding state.fresh) := by
  let opened := openCreate state pid false .outside
  have hopened : daemons.step state (.run pid false) = some opened := by
    rcases hphase with hphase | hphase <;>
      simp [daemons, step, pidLockStep, hphase, opened, openCreate, hfree]
  have hwrite : opened.phase pid = .writePid state.fresh := by
    simp [opened, openCreate, hfree, State.at]
  let held : State :=
    { opened.at pid (.holding state.fresh) with
      text := Function.update opened.text state.fresh (some pid) }
  have hheld : daemons.step opened (.run pid false) = some held := by
    simp [daemons, step, pidLockStep, hwrite, held]
  refine ⟨_, held, .tail (.single hopened) hheld, ?_⟩
  simp [held, opened, openCreate, hfree, State.at]

/-- A process that unlinks on release can start again and take the lock at once. -/
theorem run_reenters {state : State} {pid : Pid} {file : Inode} (hpid : 0 < pid)
    (hphase : state.phase pid = .unlinkOwn file) :
    ∃ trace next, daemons.Run state trace next ∧
      next.phase = Function.update state.phase pid (.holding state.fresh) := by
  let unlinked := (unlinkPath state false).at pid .outside
  let gone := unlinked.at pid .absent
  let started := gone.at pid .openExcl
  have hunlinked : daemons.step state (.run pid false) = some unlinked := by
    simp [daemons, step, pidLockStep, hphase, unlinked]
  have hgone : daemons.step unlinked (.exit pid) = some gone := by
    simp [daemons, step, unlinked, gone, State.at]
  have hstarted : daemons.step gone (.start pid) = some started := by
    simp [daemons, step, gone, started, State.at, hpid]
  have hfree : started.path = none := rfl
  have hopen : started.phase pid = .openExcl := by simp [started, State.at]
  obtain ⟨trace, next, hrun, hnext⟩ := run_creates hfree (.inr hopen)
  refine ⟨_, next, .trans (.tail (.tail (.single hunlinked) hgone) hstarted) hrun, ?_⟩
  rw [hnext]
  simp [started, gone, unlinked, unlinkPath, State.at]

theorem not_singleDaemon_of_holds {state : State} {first second : Pid} {file other : Inode}
    (hne : first ≠ second) (hfirst : state.phase first = .holding file)
    (hsecond : state.phase second = .holding other) : ¬ SingleDaemon state :=
  fun hsingle => hne (hsingle first second ⟨file, hfirst⟩ ⟨other, hsecond⟩)

/-- The live process whose file was unlinked comes to hold the lock as well. -/
theorem run_secondHolder {state : State} {pid other : Pid} {file held : Inode}
    (hpositive : PositivePids state) (hne : other ≠ pid)
    (hholds : state.phase pid = .holding held)
    (hcreated : (state.phase other).created = some file) :
    ∃ trace last, daemons.Run state trace last ∧ ¬ SingleDaemon last := by
  have hother : 0 < other := by
    apply hpositive
    intro habsent
    rw [habsent] at hcreated
    cases hcreated
  have hreenter : ∀ {current : State} {own : Inode}, current.phase pid = .holding held →
      current.phase other = .unlinkOwn own →
      ∃ trace last, daemons.Run current trace last ∧ ¬ SingleDaemon last := by
    intro current own hpid hown
    obtain ⟨trace, last, hrun, hlast⟩ := run_reenters hother hown
    have hagain : last.phase other = .holding current.fresh := by
      rw [hlast, Function.update_self]
    have hstill : last.phase pid = .holding held := by
      rw [hlast, Function.update_of_ne hne.symm, hpid]
    exact ⟨trace, last, hrun, not_singleDaemon_of_holds hne hagain hstill⟩
  cases hphase : state.phase other with
  | holding own => exact ⟨[], state, .refl state, not_singleDaemon_of_holds hne hphase hholds⟩
  | unlinkOwn own => exact hreenter hholds hphase
  | writePid own =>
      let written : State :=
        { state.at other (.holding own) with
          text := Function.update state.text own (some other) }
      have hstep : daemons.step state (.run other false) = some written := by
        simp [daemons, step, pidLockStep, hphase, written]
      have hown : written.phase other = .holding own := Function.update_self _ _ _
      have hstill : written.phase pid = .holding held :=
        (Function.update_of_ne hne.symm _ _).trans hholds
      exact ⟨_, written, .single hstep, not_singleDaemon_of_holds hne hown hstill⟩
  | closeFd own =>
      let closed := state.at other (.unlinkOwn own)
      have hstep : daemons.step state (.run other false) = some closed := by
        simp [daemons, step, pidLockStep, hphase, closed]
      have hpid : closed.phase pid = .holding held :=
        (Function.update_of_ne hne.symm _ _).trans hholds
      obtain ⟨trace, last, hrun, hlast⟩ := hreenter hpid (Function.update_self _ _ _)
      exact ⟨_, last, .trans (.single hstep) hrun, hlast⟩
  | _ =>
      rw [hphase] at hcreated
      cases hcreated

/--
Whenever `acquire_pid_lock` is about to unlink the file of a live process, two
daemons can end up holding the lock: no weaker condition on the step will do.
-/
theorem exists_secondDaemon_of_unlinksLive {state : State} {pid : Pid}
    (hreach : daemons.Reachable state) (hphase : state.phase pid = .unlinkStale)
    (hlive : ¬ PathIsStale state) :
    ∃ trace last, daemons.Run state trace last ∧ ¬ SingleDaemon last := by
  have hpositive := positivePids_reachable hreach
  have hpid : 0 < pid := hpositive pid (by simp [hphase])
  unfold PathIsStale at hlive
  push Not at hlive
  obtain ⟨other, file, hcreated, -⟩ := hlive
  have hne : other ≠ pid := by
    rintro rfl
    rw [hphase] at hcreated
    cases hcreated
  let unlinked := (unlinkPath state false).at pid .reopen
  have hstep : daemons.step state (.run pid false) = some unlinked := by
    simp [daemons, step, pidLockStep, hphase, unlinked]
  have hreopen : unlinked.phase pid = .reopen := by simp [unlinked, State.at]
  have hfree : unlinked.path = none := rfl
  obtain ⟨trace, next, hrun, hnext⟩ := run_creates hfree (.inl hreopen)
  have hpositiveUnlinked : PositivePids unlinked := positivePids_at hpositive hpid _
  have hphaseNext : next.phase = (unlinked.at pid (.holding unlinked.fresh)).phase := hnext
  have hpositiveNext : PositivePids next := by
    unfold PositivePids
    rw [hphaseNext]
    exact positivePids_at hpositiveUnlinked hpid _
  have hcreatedNext : (next.phase other).created = some file := by
    rw [hnext, Function.update_of_ne hne]
    simpa [unlinked, State.at, hne, unlinkPath] using hcreated
  have hholds : next.phase pid = .holding unlinked.fresh := by
    rw [hnext]
    exact Function.update_self _ _ _
  obtain ⟨after, last, hafter, hlast⟩ :=
    run_secondHolder hpositiveNext hne hholds hcreatedNext
  exact ⟨_, last, .trans (.single hstep) (.trans hrun hafter), hlast⟩

end K4W.Daemon.PidLock
