import Mathlib.Algebra.Order.BigOperators.Group.List
import Mathlib.Algebra.Ring.Nat

/-!
# Evicting the oldest entries

A store holds weighted entries, oldest first, and something pinned. Entries leave from the
front while the total weight is above a limit.
-/

set_option autoImplicit false

namespace Eviction

variable {Entry : Type} (limit : Nat) (weight : Entry → Nat)

/-- The entries that leave, and those that stay. -/
def evict : List Entry → Nat → List Entry × List Entry
  | [], _ => ([], [])
  | oldest :: rest, total =>
      if total > limit then
        let (evicted, kept) := evict rest (total - weight oldest)
        (oldest :: evicted, kept)
      else ([], oldest :: rest)

/-- The total weight behind. -/
def remaining (entries : List Entry) (total : Nat) : Nat :=
  total - ((evict limit weight entries total).1.map weight).sum

variable {limit : Nat} {weight : Entry → Nat}

theorem evict_append (entries : List Entry) (total : Nat) :
    (evict limit weight entries total).1 ++ (evict limit weight entries total).2 = entries := by
  induction entries generalizing total with
  | nil => rfl
  | cons oldest rest ih =>
      unfold evict
      split
      · exact congrArg (oldest :: ·) (ih (total - weight oldest))
      · rfl

/-- What is left weighs what is accounted. -/
theorem remaining_eq {entries : List Entry} {total pinned : Nat}
    (balanced : total = (entries.map weight).sum + pinned) :
    remaining limit weight entries total =
      ((evict limit weight entries total).2.map weight).sum + pinned := by
  have parts := congrArg (fun entries => (entries.map weight).sum)
    (@evict_append _ limit weight entries total)
  simp only [List.map_append, List.sum_append] at parts
  unfold remaining
  omega

/-- Entries only stay above the limit if they are none. -/
theorem remaining_le {entries : List Entry} {total pinned : Nat}
    (balanced : total = (entries.map weight).sum + pinned) :
    remaining limit weight entries total ≤ max limit pinned := by
  induction entries generalizing total with
  | nil =>
      rw [remaining, evict, List.map_nil, List.sum_nil, Nat.sub_zero, balanced]
      simp
  | cons oldest rest ih =>
      rw [List.map_cons, List.sum_cons] at balanced
      unfold remaining evict
      split
      · have later := @ih (total - weight oldest) (by omega)
        rw [remaining] at later
        rw [List.map_cons, List.sum_cons, ← Nat.sub_sub]
        exact later
      · rename_i within
        exact Nat.le_trans (Nat.sub_le ..) (Nat.le_trans (Nat.not_lt.mp within) (Nat.le_max_left ..))

end Eviction
