import Mathlib.Data.List.Basic

/-!
# Machines, runs, and guarded invariants

A machine is a set of starting states and a partial step function driven by
actions.  A run keeps the trace of the states in which its actions were taken,
oldest first, so that a condition on steps is a condition on the trace.
-/

namespace K4W.Library

universe u v

structure Machine (State : Type u) (Action : Type v) where
  Start : State → Prop
  step : State → Action → Option State

namespace Machine

variable {State : Type u} {Action : Type v} (machine : Machine State Action)

/-- Finite runs from a state, with their traces. -/
inductive Run : State → List (State × Action) → State → Prop where
  | refl (state : State) : Run state [] state
  | tail {first middle last : State} {trace : List (State × Action)}
      {action : Action} :
      Run first trace middle →
      machine.step middle action = some last →
      Run first (trace ++ [(middle, action)]) last

/-- Every step of the trace is taken in a state that meets the condition. -/
def Meets (condition : State → Action → Prop)
    (trace : List (State × Action)) : Prop :=
  ∀ entry ∈ trace, condition entry.1 entry.2

/-- States that some run from a starting state ends in. -/
def Reachable (state : State) : Prop :=
  ∃ first trace, machine.Start first ∧ machine.Run first trace state

/-- Some run leads from the first state to the last. -/
def Reaches (first last : State) : Prop :=
  ∃ trace, machine.Run first trace last

instance (condition : State → Action → Prop)
    [∀ state action, Decidable (condition state action)]
    (trace : List (State × Action)) : Decidable (Meets condition trace) :=
  inferInstanceAs (Decidable (∀ entry ∈ trace, condition entry.1 entry.2))

theorem meets_append {condition : State → Action → Prop}
    {front back : List (State × Action)} :
    Meets condition (front ++ back) ↔
      Meets condition front ∧ Meets condition back := by
  simp only [Meets, List.mem_append, or_imp, forall_and]

theorem meets_singleton {condition : State → Action → Prop}
    {state : State} {action : Action} :
    Meets condition [(state, action)] ↔ condition state action := by
  simp [Meets]

variable {machine}

namespace Run

theorem single {first last : State} {action : Action}
    (hstep : machine.step first action = some last) :
    machine.Run first [(first, action)] last :=
  .tail (.refl first) hstep

theorem trans {first middle last : State} {front back : List (State × Action)}
    (hfront : machine.Run first front middle)
    (hback : machine.Run middle back last) :
    machine.Run first (front ++ back) last := by
  induction hback with
  | refl => simpa using hfront
  | tail hprefix hstep ih =>
      rw [← List.append_assoc]
      exact .tail ih hstep

/--
The invariant rule for a predicate of the trace so far and the state: every step
that meets the condition preserves it.
-/
theorem preserves_traced {Invariant : List (State × Action) → State → Prop}
    {condition : State → Action → Prop} {first last : State}
    {trace : List (State × Action)} (hrun : machine.Run first trace last)
    (hmeets : Meets condition trace) (hfirst : Invariant [] first)
    (hstep : ∀ {trace state action next}, Invariant trace state → condition state action →
      machine.step state action = some next → Invariant (trace ++ [(state, action)]) next) :
    Invariant trace last := by
  induction hrun with
  | refl => exact hfirst
  | tail hprefix hlast ih =>
      obtain ⟨hfront, hback⟩ := meets_append.mp hmeets
      exact hstep (ih hfront) (meets_singleton.mp hback) hlast

/-- The invariant rule for a predicate of the state. -/
theorem preserves {Invariant : State → Prop} {condition : State → Action → Prop}
    {first last : State} {trace : List (State × Action)}
    (hrun : machine.Run first trace last) (hmeets : Meets condition trace)
    (hfirst : Invariant first)
    (hstep : ∀ {state action next}, Invariant state → condition state action →
      machine.step state action = some next → Invariant next) : Invariant last :=
  hrun.preserves_traced hmeets hfirst hstep

/-- A predicate of states holds all along a trace that is one step longer. -/
theorem everywhere_append {Holds : State → Prop} {trace : List (State × Action)}
    {state : State} {action : Action} (htrace : ∀ entry ∈ trace, Holds entry.1)
    (hstate : Holds state) : ∀ entry ∈ trace ++ [(state, action)], Holds entry.1 := by
  intro entry hentry
  rcases List.mem_append.mp hentry with hold | hnew
  · exact htrace entry hold
  · rw [List.mem_singleton.mp hnew]
    exact hstate

/-- The invariant rule for every state of a run, not only its last one. -/
theorem preserves_everywhere {Invariant : State → Prop}
    {condition : State → Action → Prop} {first last : State}
    {trace : List (State × Action)} (hrun : machine.Run first trace last)
    (hmeets : Meets condition trace) (hfirst : Invariant first)
    (hstep : ∀ {state action next}, Invariant state → condition state action →
      machine.step state action = some next → Invariant next) :
    (∀ entry ∈ trace, Invariant entry.1) ∧ Invariant last := by
  let holds (trace : List (State × Action)) (state : State) : Prop :=
    (∀ entry ∈ trace, Invariant entry.1) ∧ Invariant state
  have hnil : holds [] first := ⟨fun _ hentry => absurd hentry List.not_mem_nil, hfirst⟩
  have hnext : ∀ {trace state action next}, holds trace state → condition state action →
      machine.step state action = some next → holds (trace ++ [(state, action)]) next :=
    fun hholds hcondition hlast => ⟨everywhere_append hholds.1 hholds.2,
      hstep hholds.2 hcondition hlast⟩
  exact hrun.preserves_traced hmeets hnil hnext

theorem first_of_everywhere {Shows : State → Prop} {first last : State}
    {trace : List (State × Action)} (hrun : machine.Run first trace last)
    (hall : ∀ entry ∈ trace, Shows entry.1) (hlast : Shows last) : Shows first := by
  induction hrun with
  | refl => exact hlast
  | @tail middle last trace action hprefix hfinal ih =>
      have hmiddle : Shows middle := hall (middle, action) (by simp)
      exact ih (fun entry hentry => hall entry (List.mem_append_left _ hentry)) hmiddle

/-- A condition that the next state shows is met along a run whose states all show it. -/
theorem meets_of_everywhere {Shows : State → Prop} {condition : State → Action → Prop}
    {first last : State} {trace : List (State × Action)}
    (hrun : machine.Run first trace last) (hall : ∀ entry ∈ trace, Shows entry.1)
    (hlast : Shows last)
    (hstep : ∀ {state action next}, machine.step state action = some next →
      (state, action) ∈ trace → Shows next → condition state action) :
    Meets condition trace := by
  induction hrun with
  | refl => exact fun _ hentry => absurd hentry List.not_mem_nil
  | @tail middle last trace action hprefix hfinal ih =>
      have hmiddle : Shows middle := hall (middle, action) (by simp)
      refine meets_append.mpr ⟨ih ?_ hmiddle ?_, meets_singleton.mpr ?_⟩
      · exact fun entry hentry => hall entry (List.mem_append_left _ hentry)
      · exact fun hnext hentry => hstep hnext (List.mem_append_left _ hentry)
      · exact hstep hfinal (by simp) hlast

end Run

namespace Reaches

theorem refl (state : State) : machine.Reaches state state :=
  ⟨[], .refl state⟩

theorem single {first last : State} (action : Action)
    (hstep : machine.step first action = some last) : machine.Reaches first last :=
  ⟨_, Run.single hstep⟩

theorem trans {first middle last : State} (hfront : machine.Reaches first middle)
    (hback : machine.Reaches middle last) : machine.Reaches first last := by
  obtain ⟨front, hfront⟩ := hfront
  obtain ⟨back, hback⟩ := hback
  exact ⟨front ++ back, hfront.trans hback⟩

end Reaches

/-- The invariant rule for a predicate that every step preserves. -/
theorem Reachable.invariant {Invariant : State → Prop}
    (hstart : ∀ {state}, machine.Start state → Invariant state)
    (hstep : ∀ {state action next}, Invariant state →
      machine.step state action = some next → Invariant next)
    {state : State} (hreach : machine.Reachable state) : Invariant state := by
  obtain ⟨first, trace, hfirst, hrun⟩ := hreach
  have hmeets : Meets (fun _ _ => True) trace := fun _ _ => trivial
  exact hrun.preserves hmeets (hstart hfirst) (fun hinv _ h => hstep hinv h)

/-! ## Playing a fixed list of actions -/

variable (machine)

def play : State → List Action → Option State
  | state, [] => some state
  | state, action :: rest =>
      match machine.step state action with
      | none => none
      | some next => play next rest

def traceOf : State → List Action → List (State × Action)
  | _, [] => []
  | state, action :: rest =>
      (state, action) ::
        match machine.step state action with
        | none => []
        | some next => traceOf next rest

variable {machine}

/-- A list of actions that plays to the end is a run with the played trace. -/
theorem run_of_play {first last : State} {actions : List Action}
    (hplay : machine.play first actions = some last) :
    machine.Run first (machine.traceOf first actions) last := by
  induction actions generalizing first with
  | nil =>
      cases hplay
      exact .refl _
  | cons action rest ih =>
      cases hstep : machine.step first action with
      | none => simp [play, hstep] at hplay
      | some next =>
          have hrest : machine.play next rest = some last := by
            simpa [play, hstep] using hplay
          simpa [traceOf, hstep] using
            Run.trans (Run.single hstep) (ih hrest)

/-- An executable test that holds at the end of a play holds somewhere reachable. -/
theorem exists_reachable_of_play {first : State} {actions : List Action}
    {test : State → Bool} (hfirst : machine.Start first)
    (hplay : (machine.play first actions).any test = true) :
    ∃ last, machine.Reachable last ∧ test last = true := by
  cases hlast : machine.play first actions with
  | none => simp [hlast] at hplay
  | some last =>
      refine ⟨last, ⟨first, _, hfirst, run_of_play hlast⟩, ?_⟩
      simpa [hlast] using hplay

end Machine

end K4W.Library
