import Mathlib.Data.List.Induction

/-!
# Loops over a sequence of inputs

A loop keeps a state, takes one input in every iteration, and makes one output
of it.  The past of an iteration is the list of the inputs taken before it.
What holds of a past and the state it leads to follows from what one iteration
preserves.  The latest row of a past is its longest end whose inputs are all of
one kind.
-/

namespace K4W.Library

universe u v w

structure Loop (State : Type u) (Input : Type v) (Output : Type w) where
  initial : State
  step : State → Input → State × Output

/-- One iteration, with the states at its two ends. -/
structure Iteration (State : Type u) (Input : Type v) (Output : Type w) where
  before : State
  input : Input
  after : State
  output : Output

namespace Loop

variable {State : Type u} {Input : Type v} {Output : Type w}

section Runs

variable (loop : Loop State Input Output)

def next (state : State) (input : Input) : State :=
  (loop.step state input).1

def output (state : State) (input : Input) : Output :=
  (loop.step state input).2

def iterate (state : State) (input : Input) : Iteration State Input Output where
  before := state
  input := input
  after := loop.next state input
  output := loop.output state input

def stateFrom (state : State) (inputs : List Input) : State :=
  inputs.foldl loop.next state

def runFrom : State → List Input → List (Iteration State Input Output)
  | _, [] => []
  | state, input :: rest => loop.iterate state input :: runFrom (loop.next state input) rest

/-- The state at the head of the loop after the inputs. -/
def state (inputs : List Input) : State :=
  loop.stateFrom loop.initial inputs

/-- The iterations that take the inputs, first one first. -/
def run (inputs : List Input) : List (Iteration State Input Output) :=
  loop.runFrom loop.initial inputs

@[simp] theorem state_nil : loop.state [] = loop.initial :=
  rfl

@[simp] theorem run_nil : loop.run [] = [] :=
  rfl

@[simp] theorem state_append (past : List Input) (input : Input) :
    loop.state (past ++ [input]) = loop.next (loop.state past) input := by
  simp [state, stateFrom]

theorem runFrom_append (first : State) (front back : List Input) :
    loop.runFrom first (front ++ back) =
      loop.runFrom first front ++ loop.runFrom (loop.stateFrom first front) back := by
  induction front generalizing first with
  | nil => rfl
  | cons input rest ih => exact congrArg _ (ih (loop.next first input))

@[simp] theorem run_append (past : List Input) (input : Input) :
    loop.run (past ++ [input]) = loop.run past ++ [loop.iterate (loop.state past) input] :=
  loop.runFrom_append loop.initial past [input]

/-- The iterations of a run, each with its past. -/
theorem mem_run_iff {inputs : List Input} {iteration : Iteration State Input Output} :
    iteration ∈ loop.run inputs ↔ ∃ past input rest, inputs = past ++ input :: rest ∧
      iteration = loop.iterate (loop.state past) input := by
  constructor
  · intro hmem
    induction inputs using List.reverseRecOn with
    | nil => cases hmem
    | append_singleton inputs last ih =>
        rw [run_append] at hmem
        rcases List.mem_append.mp hmem with hold | hnew
        · obtain ⟨past, input, rest, rfl, hiteration⟩ := ih hold
          exact ⟨past, input, rest ++ [last], by simp, hiteration⟩
        · exact ⟨inputs, last, [], rfl, List.mem_singleton.mp hnew⟩
  · rintro ⟨past, input, rest, rfl, rfl⟩
    rw [run, runFrom_append]
    exact List.mem_append_right _ List.mem_cons_self

end Runs

variable {loop : Loop State Input Output}

/-- The invariant rule for a predicate of the iterations so far and the state. -/
theorem run_invariant {Invariant : List (Iteration State Input Output) → State → Prop}
    (hinitial : Invariant [] loop.initial)
    (hnext : ∀ {run state} input, Invariant run state →
      Invariant (run ++ [loop.iterate state input]) (loop.next state input))
    (inputs : List Input) : Invariant (loop.run inputs) (loop.state inputs) := by
  induction inputs using List.reverseRecOn with
  | nil => exact hinitial
  | append_singleton inputs last ih =>
      rw [run_append, state_append]
      exact hnext last ih

/-- The invariant rule for a predicate of the past and the state. -/
theorem state_of_past {Invariant : List Input → State → Prop}
    (hinitial : Invariant [] loop.initial)
    (hnext : ∀ {past state} input, Invariant past state →
      Invariant (past ++ [input]) (loop.next state input)) (inputs : List Input) :
    Invariant inputs (loop.state inputs) := by
  induction inputs using List.reverseRecOn with
  | nil => exact hinitial
  | append_singleton inputs last ih =>
      rw [state_append]
      exact hnext last ih

end Loop

/-- What is picked from a run is picked from its last iteration at the end. -/
theorem filterMap_concat {α : Type u} {β : Type v} (pick : α → Option β) (front : List α)
    (last : α) : (front ++ [last]).filterMap pick = front.filterMap pick ++ (pick last).toList := by
  rw [List.filterMap_append]
  cases hlast : pick last <;> simp [hlast]

/-! ## The latest row -/

section Rows

variable {Input : Type v} (kind : Input → Bool)

/-- The longest end of the past that is all of one kind, newest input first. -/
def latestRow (past : List Input) : List Input :=
  past.reverse.takeWhile kind

@[simp] theorem latestRow_nil : latestRow kind [] = [] :=
  rfl

@[simp] theorem latestRow_append (past : List Input) (input : Input) :
    latestRow kind (past ++ [input]) =
      if kind input then input :: latestRow kind past else [] := by
  rw [latestRow, List.reverse_append, List.reverse_singleton, List.singleton_append,
    List.takeWhile_cons]
  rfl

variable {kind}

theorem latestRow_append_of_all {front row : List Input}
    (hall : ∀ input ∈ row, kind input = true) :
    latestRow kind (front ++ row) = row.reverse ++ latestRow kind front := by
  rw [latestRow, List.reverse_append, List.takeWhile_append_of_pos]
  · rfl
  · exact fun input hmem => hall input (List.mem_reverse.mp hmem)

theorem mem_latestRow {past : List Input} {input : Input} (hmem : input ∈ latestRow kind past) :
    kind input = true :=
  List.all_eq_true.mp List.all_takeWhile input hmem

theorem latestRow_eq_nil_iff {past : List Input} :
    latestRow kind past = [] ↔ ∀ last ∈ past.getLast?, kind last = false := by
  induction past using List.reverseRecOn with
  | nil => simp
  | append_singleton past last ih => cases hkind : kind last <;> simp [hkind]

/-- A past ends with its latest row, and an input of another kind stands before it. -/
theorem exists_before_latestRow (past : List Input) :
    ∃ front, past = front ++ (latestRow kind past).reverse ∧ latestRow kind front = [] := by
  induction past using List.reverseRecOn with
  | nil => exact ⟨[], rfl, rfl⟩
  | append_singleton past last ih =>
      cases hkind : kind last with
      | false => exact ⟨past ++ [last], by simp [hkind], by simp [hkind]⟩
      | true =>
          obtain ⟨front, hpast, hfront⟩ := ih
          refine ⟨front, ?_, hfront⟩
          rw [latestRow_append, hkind, if_pos rfl, List.reverse_cons, ← List.append_assoc,
            ← hpast]

end Rows

end K4W.Library
