import Mathlib.Data.List.Basic

/-!
# Bounded queues

A first-in first-out queue that carries its bound, so a queue longer than its
capacity cannot be built.
-/

set_option autoImplicit false

structure BoundedQueue (α : Type) where
  capacity : Nat
  items : List α := []
  bounded : items.length ≤ capacity := by simp

namespace BoundedQueue

variable {α : Type}

def empty (capacity : Nat) : BoundedQueue α := { capacity }

/-- Append at the back, unless the queue is full. -/
def push (queue : BoundedQueue α) (value : α) : Option (BoundedQueue α) :=
  if room : queue.items.length < queue.capacity then
    some { capacity := queue.capacity
           items := queue.items ++ [value]
           bounded := by rw [List.length_append]; exact room }
  else none

/-- Remove the front, unless the queue is empty. -/
def pop (queue : BoundedQueue α) : Option (α × BoundedQueue α) :=
  match queue with
  | ⟨_, [], _⟩ => none
  | ⟨capacity, value :: rest, bounded⟩ =>
      some (value, ⟨capacity, rest, Nat.le_of_succ_le bounded⟩)

/-- The queue with everything removed. -/
def clear (queue : BoundedQueue α) : BoundedQueue α := empty queue.capacity

@[simp] theorem empty_capacity (capacity : Nat) :
    (empty capacity : BoundedQueue α).capacity = capacity := rfl

theorem push_eq_some {queue next : BoundedQueue α} {value : α}
    (pushed : queue.push value = some next) :
    next.items = queue.items ++ [value] ∧ next.capacity = queue.capacity := by
  unfold push at pushed
  split at pushed
  · cases pushed
    exact ⟨rfl, rfl⟩
  · cases pushed

theorem push_eq_none_iff {queue : BoundedQueue α} {value : α} :
    queue.push value = none ↔ queue.items.length = queue.capacity := by
  unfold push
  split
  · simp only [reduceCtorEq, false_iff]
    omega
  · have := queue.bounded
    simp only [true_iff]
    omega

theorem pop_eq_none_iff {queue : BoundedQueue α} : queue.pop = none ↔ queue.items = [] := by
  obtain ⟨capacity, items, bounded⟩ := queue
  cases items <;> simp [pop]

theorem pop_eq_some {queue next : BoundedQueue α} {value : α}
    (popped : queue.pop = some (value, next)) :
    queue.items = value :: next.items ∧ next.capacity = queue.capacity := by
  obtain ⟨capacity, items, bounded⟩ := queue
  cases items with
  | nil => simp [pop] at popped
  | cons head rest =>
      simp only [pop, Option.some.injEq, Prod.mk.injEq] at popped
      obtain ⟨rfl, rfl⟩ := popped
      exact ⟨rfl, rfl⟩

theorem push_of_room {queue : BoundedQueue α} (value : α)
    (room : queue.items.length < queue.capacity) :
    ∃ next, queue.push value = some next ∧ next.items = queue.items ++ [value] ∧
      next.capacity = queue.capacity := by
  cases pushed : queue.push value with
  | some next => exact ⟨next, rfl, push_eq_some pushed⟩
  | none => exact absurd (push_eq_none_iff.mp pushed) (Nat.ne_of_lt room)

theorem pop_of_cons {queue : BoundedQueue α} {value : α} {rest : List α}
    (items : queue.items = value :: rest) :
    ∃ next, queue.pop = some (value, next) ∧ next.items = rest ∧
      next.capacity = queue.capacity := by
  cases popped : queue.pop with
  | none => simp [pop_eq_none_iff.mp popped] at items
  | some result =>
      obtain ⟨front, next⟩ := result
      obtain ⟨shape, capacity⟩ := pop_eq_some popped
      obtain ⟨rfl, rfl⟩ := List.cons.inj (shape.symm.trans items)
      exact ⟨next, rfl, rfl, capacity⟩

section Map

variable {β : Type}

/-- The queue with its values changed. -/
def map (f : α → β) (queue : BoundedQueue α) : BoundedQueue β where
  capacity := queue.capacity
  items := queue.items.map f
  bounded := by
    rw [List.length_map]
    exact queue.bounded

theorem map_map {γ : Type} (f : α → β) (g : β → γ) (queue : BoundedQueue α) :
    (queue.map f).map g = queue.map (g ∘ f) := by
  simp [map]

theorem push_map (f : α → β) (queue : BoundedQueue α) (value : α) :
    (queue.map f).push (f value) = (queue.push value).map (map f) := by
  by_cases room : queue.items.length < queue.capacity
  · simp [push, map, room]
  · simp [push, map, room]

theorem pop_map (f : α → β) (queue : BoundedQueue α) :
    (queue.map f).pop = queue.pop.map fun popped => (f popped.1, popped.2.map f) := by
  obtain ⟨capacity, items, bounded⟩ := queue
  cases items <;> rfl

end Map

end BoundedQueue

/-- An operation on a queue, with its answer. -/
inductive QueueOp (α : Type) where
  | pushed (value : α)
  | rejected (value : α)
  | popped (value : α)
  | empty

namespace QueueOp

variable {α : Type}

def pushedValue : QueueOp α → Option α
  | .pushed value => some value
  | .rejected _ | .popped _ | .empty => none

def poppedValue : QueueOp α → Option α
  | .popped value => some value
  | .pushed _ | .rejected _ | .empty => none

end QueueOp

namespace BoundedQueue

variable {α : Type}

/-- The queue gives this answer to this operation. -/
inductive Answers (queue : BoundedQueue α) : QueueOp α → BoundedQueue α → Prop where
  | pushed {value : α} {next : BoundedQueue α} (accepted : queue.push value = some next) :
      Answers queue (.pushed value) next
  | rejected {value : α} (full : queue.push value = none) : Answers queue (.rejected value) queue
  | popped {value : α} {next : BoundedQueue α} (front : queue.pop = some (value, next)) :
      Answers queue (.popped value) next
  | empty (none : queue.pop = none) : Answers queue .empty queue

/-- The operations of a history, one after the other, get the answers it says. -/
inductive Replays (start : BoundedQueue α) : List (QueueOp α) → BoundedQueue α → Prop where
  | start : Replays start [] start
  | step {history : List (QueueOp α)} {queue next : BoundedQueue α} {op : QueueOp α}
      (earlier : Replays start history queue) (answers : queue.Answers op next) :
      Replays start (history ++ [op]) next

theorem Answers.capacity {queue next : BoundedQueue α} {op : QueueOp α}
    (answers : queue.Answers op next) : next.capacity = queue.capacity := by
  cases answers with
  | pushed accepted => exact (push_eq_some accepted).2
  | popped front => exact (pop_eq_some front).2
  | rejected | empty => rfl

theorem Replays.capacity {start queue : BoundedQueue α} {history : List (QueueOp α)}
    (replays : Replays start history queue) : queue.capacity = start.capacity := by
  induction replays with
  | start => rfl
  | step _ answers ih => exact answers.capacity.trans ih

end BoundedQueue
