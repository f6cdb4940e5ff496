import Mathlib.Data.List.Basic

/-!
# Runs of a deterministic machine

A machine is a step function. Invariants are proved for one step and carried
over whole runs here, also through an abstraction whose step needs choices the
concrete machine resolves by itself.
-/

set_option autoImplicit false

namespace Machine

variable {State Label : Type}

/-- The state after the steps of `labels`, in order. -/
def run (step : Label → State → State) (labels : List Label) (state : State) : State :=
  labels.foldl (fun state label => step label state) state

@[simp] theorem run_nil (step : Label → State → State) (state : State) :
    run step [] state = state := rfl

@[simp] theorem run_cons (step : Label → State → State) (label : Label) (rest : List Label)
    (state : State) : run step (label :: rest) state = run step rest (step label state) := rfl

theorem run_append (step : Label → State → State) (first second : List Label) (state : State) :
    run step (first ++ second) state = run step second (run step first state) :=
  List.foldl_append ..

/-- Every step of the run meets `condition` in the state it starts from. -/
def Along (step : Label → State → State) (condition : State → Label → Prop) :
    List Label → State → Prop
  | [], _ => True
  | label :: rest, state => condition state label ∧ Along step condition rest (step label state)

instance decidableAlong (step : Label → State → State) (condition : State → Label → Prop)
    [∀ state label, Decidable (condition state label)] :
    ∀ labels state, Decidable (Along step condition labels state)
  | [], _ => isTrue trivial
  | label :: rest, state =>
      have := decidableAlong step condition rest (step label state)
      inferInstanceAs (Decidable (condition state label ∧ _))

theorem along_append {step : Label → State → State} {condition : State → Label → Prop}
    {first second : List Label} {state : State} :
    Along step condition (first ++ second) state ↔
      Along step condition first state ∧ Along step condition second (run step first state) := by
  induction first generalizing state with
  | nil => simp [Along]
  | cons label rest ih => simp only [List.cons_append, Along, ih, run_cons, and_assoc]

theorem along_of_forall {step : Label → State → State} {condition : State → Label → Prop}
    (always : ∀ state label, condition state label) (labels : List Label) (state : State) :
    Along step condition labels state := by
  induction labels generalizing state with
  | nil => trivial
  | cons label rest ih => exact ⟨always state label, ih _⟩

theorem Along.imp {step : Label → State → State} {strong weak : State → Label → Prop}
    (weaker : ∀ state label, strong state label → weak state label)
    {labels : List Label} {state : State} (along : Along step strong labels state) :
    Along step weak labels state := by
  induction labels generalizing state with
  | nil => trivial
  | cons label rest ih => exact ⟨weaker _ _ along.1, ih along.2⟩

theorem Along.and {step : Label → State → State} {first second : State → Label → Prop}
    {labels : List Label} {state : State} (left : Along step first labels state)
    (right : Along step second labels state) :
    Along step (fun state label => first state label ∧ second state label) labels state := by
  induction labels generalizing state with
  | nil => trivial
  | cons label rest ih => exact ⟨⟨left.1, right.1⟩, ih left.2 right.2⟩

/-- A condition that only looks at the labels. -/
theorem along_of_labels {step : Label → State → State} {condition : Label → Prop}
    {labels : List Label} {state : State} (all : ∀ label ∈ labels, condition label) :
    Along step (fun _ => condition) labels state := by
  induction labels generalizing state with
  | nil => trivial
  | cons label rest ih =>
      exact ⟨all label (by simp), ih (fun other member => all other (by simp [member]))⟩

/-- What one step preserves, a run preserves. -/
theorem run_invariant {step : Label → State → State} {condition : State → Label → Prop}
    {invariant : State → Prop}
    (preserved : ∀ state label, invariant state → condition state label →
      invariant (step label state))
    {labels : List Label} {state : State} (start : invariant state)
    (along : Along step condition labels state) : invariant (run step labels state) := by
  induction labels generalizing state with
  | nil => exact start
  | cons label rest ih => exact ih (preserved state label start along.1) along.2

/-- What an invariant implies of every step holds along every run. -/
theorem along_of_invariant {step : Label → State → State} {condition : State → Label → Prop}
    {invariant : State → Prop}
    (preserved : ∀ state label, invariant state → invariant (step label state))
    (implied : ∀ state label, invariant state → condition state label)
    (labels : List Label) {state : State} (start : invariant state) :
    Along step condition labels state := by
  induction labels generalizing state with
  | nil => trivial
  | cons label rest ih => exact ⟨implied state label start, ih (preserved state label start)⟩

theorem run_invariant_of_step {step : Label → State → State} {invariant : State → Prop}
    (preserved : ∀ state label, invariant state → invariant (step label state))
    (labels : List Label) {state : State} (start : invariant state) :
    invariant (run step labels state) :=
  run_invariant (fun state label holds (_ : True) => preserved state label holds) start
    (along_of_forall (fun _ _ => trivial) labels state)

section Watching

variable {Ghost : Type}

/-- The machine with a ghost that watches its steps. -/
def watch (step : Label → State → State) (note : State → Label → State → Ghost → Ghost)
    (label : Label) (watched : State × Ghost) : State × Ghost :=
  (step label watched.1, note watched.1 label (step label watched.1) watched.2)

/-- Watching a run does not change it. -/
@[simp] theorem run_watch_fst (step : Label → State → State)
    (note : State → Label → State → Ghost → Ghost) (labels : List Label) (watched : State × Ghost) :
    (run (watch step note) labels watched).1 = run step labels watched.1 := by
  induction labels generalizing watched with
  | nil => rfl
  | cons label rest ih => exact ih (watch step note label watched)

end Watching

section Purging

variable {View Answer : Type}

/-- What a run answers, in order. -/
def answers (step : Label → State → State) (answer : Label → State → Option Answer) :
    List Label → State → List Answer
  | [], _ => []
  | label :: rest, state =>
      (answer label state).toList ++ answers step answer rest (step label state)

/-- What relates a state to the answers given so far, where each step extends them. -/
theorem run_answers {step : Label → State → State} {answer : Label → State → Option Answer}
    {condition : State → Label → Prop} {holds : State → List Answer → Prop}
    (extended : ∀ state label given, holds state given → condition state label →
      holds (step label state) (given ++ (answer label state).toList))
    {labels : List Label} {state : State} {given : List Answer} (start : holds state given)
    (along : Along step condition labels state) :
    holds (run step labels state) (given ++ answers step answer labels state) := by
  induction labels generalizing state given with
  | nil =>
      rw [answers, List.append_nil]
      exact start
  | cons label rest ih =>
      rw [answers, ← List.append_assoc]
      exact ih (extended state label given start along.1) along.2

/-- What every answer satisfies in a state that meets the invariant. -/
theorem answers_forall {step : Label → State → State} {answer : Label → State → Option Answer}
    {invariant : State → Prop} {property : Answer → Prop}
    (preserved : ∀ state label, invariant state → invariant (step label state))
    (answered : ∀ state label, invariant state → ∀ given ∈ answer label state, property given)
    (labels : List Label) {state : State} (start : invariant state) :
    ∀ given ∈ answers step answer labels state, property given := by
  induction labels generalizing state with
  | nil =>
      intro given member
      cases member
  | cons label rest ih =>
      intro given member
      rcases List.mem_append.mp member with now | later
      · exact answered state label start given (Option.mem_toList.mp now)
      · exact ih (preserved state label start) given later

/-- A view that no hidden step changes, and from which the view after a visible
step and its answer follow. -/
structure Hides (step : Label → State → State) (answer : Label → State → Option Answer)
    (view : State → View) (visible : Label → Bool) (invariant : State → Prop) : Prop where
  preserved : ∀ state label, invariant state → invariant (step label state)
  hidden : ∀ state label, visible label = false → invariant state →
    view (step label state) = view state ∧ answer label state = none
  determined : ∀ first second label, visible label = true → view first = view second →
    view (step label first) = view (step label second) ∧ answer label first = answer label second

/-- Leaving out the hidden steps changes neither the view nor the answers. -/
theorem Hides.run {step : Label → State → State} {answer : Label → State → Option Answer}
    {view : State → View} {visible : Label → Bool} {invariant : State → Prop}
    (hides : Hides step answer view visible invariant) (labels : List Label)
    {first second : State} (start : invariant first) (same : view first = view second) :
    view (run step labels first) = view (run step (labels.filter visible) second) ∧
      answers step answer labels first = answers step answer (labels.filter visible) second := by
  induction labels generalizing first second with
  | nil => exact ⟨same, rfl⟩
  | cons label rest ih =>
      have next := hides.preserved first label start
      cases seen : visible label with
      | true =>
          obtain ⟨views, answered⟩ := hides.determined first second label seen same
          obtain ⟨runs, outputs⟩ := ih next views
          rw [List.filter_cons_of_pos seen]
          exact ⟨runs, by rw [answers, answers, answered, outputs]⟩
      | false =>
          obtain ⟨unchanged, silent⟩ := hides.hidden first label seen start
          obtain ⟨runs, outputs⟩ := ih next (unchanged.trans same)
          rw [List.filter_cons_of_neg (by simp [seen])]
          exact ⟨runs, by rw [answers, silent, Option.toList_none, List.nil_append, outputs]⟩

end Purging

section Simulation

variable {Abstract Choice : Type}

/-- Each concrete step from a state that satisfies the coupling invariant is an
abstract step for some choice. -/
structure Simulates (step : Label → State → State)
    (abstractStep : Label → Choice → Abstract → Abstract) (abstraction : State → Abstract)
    (coupled : State → Prop) : Prop where
  coupled_step : ∀ state label, coupled state → coupled (step label state)
  commutes : ∀ state label, coupled state → ∃ choice,
    abstraction (step label state) = abstractStep label choice (abstraction state)

/-- An invariant of the abstract steps holds of the abstraction of every
concrete run. -/
theorem Simulates.run_invariant {step : Label → State → State}
    {abstractStep : Label → Choice → Abstract → Abstract} {abstraction : State → Abstract}
    {coupled : State → Prop} (simulates : Simulates step abstractStep abstraction coupled)
    {condition : Abstract → Label → Prop} {invariant : Abstract → Prop}
    (preserved : ∀ state label choice, invariant state → condition state label →
      invariant (abstractStep label choice state))
    {labels : List Label} {state : State} (start : coupled state)
    (holds : invariant (abstraction state))
    (along : Along step (fun state => condition (abstraction state)) labels state) :
    invariant (abstraction (run step labels state)) := by
  induction labels generalizing state with
  | nil => exact holds
  | cons label rest ih =>
      obtain ⟨choice, commutes⟩ := simulates.commutes state label start
      have next : invariant (abstraction (step label state)) := by
        rw [commutes]
        exact preserved _ label choice holds along.1
      exact ih (simulates.coupled_step state label start) next along.2

theorem Simulates.run_coupled {step : Label → State → State}
    {abstractStep : Label → Choice → Abstract → Abstract} {abstraction : State → Abstract}
    {coupled : State → Prop} (simulates : Simulates step abstractStep abstraction coupled)
    (labels : List Label) {state : State} (start : coupled state) :
    coupled (run step labels state) :=
  run_invariant_of_step simulates.coupled_step labels start

end Simulation

end Machine
