import Mathlib.Data.List.Count

/-!
# Paced events

Events of which each comes no earlier than its place in a schedule with a fixed gap, and
how many of them there can be by some time.
-/

set_option autoImplicit false

/-- The event at `index` comes `index` gaps after the start, or later. -/
def Paced (start gap : Nat) (times : List Nat) : Prop :=
  ∀ index time, times[index]? = some time → start + index * gap ≤ time

namespace Paced

variable {start gap : Nat} {times : List Nat}

theorem nil : Paced start gap [] := by
  intro index time present
  cases present

/-- One more event, in its place or later. -/
theorem snoc (paced : Paced start gap times) {time : Nat}
    (late : start + times.length * gap ≤ time) : Paced start gap (times ++ [time]) := by
  intro index other present
  rcases Nat.lt_trichotomy index times.length with early | rfl | beyond
  · rw [List.getElem?_append_left early] at present
    exact paced index other present
  · rw [List.getElem?_concat_length] at present
    cases present
    exact late
  · rw [List.getElem?_eq_none] at present
    · cases present
    · rw [List.length_append]
      exact beyond

/-- By a time there are no more events than gaps since the start, and one. -/
theorem count_le (paced : Paced start gap times) (pos : 0 < gap) (limit : Nat) :
    times.countP (· ≤ limit) ≤ (limit - start) / gap + 1 := by
  let bound := (limit - start) / gap + 1
  have later : (times.drop bound).countP (· ≤ limit) = 0 := by
    refine List.countP_eq_zero.mpr fun time member => ?_
    obtain ⟨index, inside⟩ := List.mem_iff_getElem?.mp member
    rw [List.getElem?_drop] at inside
    have late := paced _ _ inside
    have passed : limit - start < bound * gap := Nat.lt_mul_of_div_lt (Nat.lt_succ_self _) pos
    have grown : bound * gap ≤ (bound + index) * gap :=
      Nat.mul_le_mul_right gap (Nat.le_add_right bound index)
    rw [decide_eq_true_eq]
    omega
  have split := @List.countP_append _ (fun time => decide (time ≤ limit)) (times.take bound)
    (times.drop bound)
  rw [List.take_append_drop, later, Nat.add_zero] at split
  rw [split]
  exact Nat.le_trans List.countP_le_length (List.length_take_le ..)

end Paced
