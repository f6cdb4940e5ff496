import Mathlib.Algebra.BigOperators.Group.Finset.Piecewise
import Mathlib.Algebra.Order.BigOperators.Group.Finset
import Mathlib.Algebra.Ring.Nat

/-!
# Counting list entries by kind

Predicates of which an entry satisfies at most one count each entry at most
once; a predicate that changes at one entry changes the count by one.
-/

set_option autoImplicit false

namespace Counting

variable {Kind Entry : Type} [Fintype Kind]

theorem sum_ite_le_one (holds : Kind → Bool)
    (unique : ∀ first second, holds first = true → holds second = true → first = second) :
    ∑ kind, (if holds kind = true then 1 else 0) ≤ 1 := by
  rw [← Finset.card_filter, Finset.card_le_one]
  intro first firstHolds second secondHolds
  simp only [Finset.mem_filter, Finset.mem_univ, true_and] at firstHolds secondHolds
  exact unique first second firstHolds secondHolds

theorem sum_countP_le_length (holds : Kind → Entry → Bool)
    (unique : ∀ entry first second, holds first entry = true → holds second entry = true →
      first = second) (entries : List Entry) :
    ∑ kind, entries.countP (holds kind) ≤ entries.length := by
  induction entries with
  | nil => simp
  | cons entry rest ih =>
      simp only [List.countP_cons, Finset.sum_add_distrib, List.length_cons]
      have := sum_ite_le_one (holds · entry) (unique entry)
      omega

theorem countP_change (before after : Entry → Bool) {entries : List Entry} {entry : Entry}
    (distinct : entries.Nodup) (member : entry ∈ entries) (unset : before entry = false)
    (elsewhere : ∀ other ∈ entries, other ≠ entry → after other = before other) :
    entries.countP after = entries.countP before + if after entry = true then 1 else 0 := by
  induction entries with
  | nil => cases member
  | cons head rest ih =>
      obtain ⟨absent, restDistinct⟩ := List.nodup_cons.mp distinct
      rw [List.countP_cons, List.countP_cons]
      rcases List.mem_cons.mp member with rfl | inRest
      · have same : rest.countP after = rest.countP before := by
          refine List.countP_congr fun other inRest => ?_
          rw [elsewhere other (by simp [inRest]) (by rintro rfl; exact absent inRest)]
        simp [same, unset]
      · have different : head ≠ entry := by
          rintro rfl
          exact absent inRest
        rw [ih restDistinct inRest fun other inRest => elsewhere other (by simp [inRest]),
          elsewhere head (by simp) different]
        omega

/-- An entry, and the others. -/
theorem sum_map_eraseIdx (weight : Entry → Nat) {entries : List Entry} {index : Nat}
    {entry : Entry} (present : entries[index]? = some entry) :
    (entries.map weight).sum = weight entry + ((entries.eraseIdx index).map weight).sum := by
  obtain ⟨inside, rfl⟩ := List.getElem?_eq_some_iff.mp present
  exact ((List.getElem_cons_eraseIdx_perm inside).symm.map weight).sum_eq

theorem sum_map_set (weight : Entry → Nat) {entries : List Entry} {index : Nat} {entry : Entry}
    (present : entries[index]? = some entry) (other : Entry) :
    ((entries.set index other).map weight).sum =
      weight other + ((entries.eraseIdx index).map weight).sum := by
  obtain ⟨inside, -⟩ := List.getElem?_eq_some_iff.mp present
  exact ((List.set_perm_cons_eraseIdx inside other).map weight).sum_eq

private theorem sum_indicator (value bound : Nat) :
    ((List.range bound).map fun other => if (value == other) = true then 1 else 0).sum =
      if value < bound then 1 else 0 := by
  induction bound with
  | zero => rfl
  | succ bound ih =>
      rw [List.range_succ, List.map_append, List.sum_append, ih, List.map_singleton,
        List.sum_singleton]
      simp only [beq_iff_eq]
      split_ifs <;> omega

/-- Counting by a key with finitely many values. -/
theorem sum_countP_key (selected : Entry → Bool) (key : Entry → Nat) (bound : Nat)
    (entries : List Entry)
    (small : ∀ entry ∈ entries, selected entry = true → key entry < bound) :
    ((List.range bound).map fun value =>
        entries.countP fun entry => selected entry && key entry == value).sum =
      entries.countP selected := by
  induction entries with
  | nil => simp
  | cons entry rest ih =>
      have tail := ih fun other inRest => small other (by simp [inRest])
      simp only [List.countP_cons, List.sum_map_add, tail]
      congr 1
      cases chosen : selected entry with
      | false => simp
      | true =>
          simp only [Bool.true_and, sum_indicator, small entry (by simp) chosen, if_true]

theorem countP_range_lt (bound count : Nat) :
    (List.range count).countP (fun index => decide (index < bound)) = min count bound := by
  induction count with
  | zero => simp
  | succ count ih =>
      rw [List.range_succ, List.countP_append, ih, List.countP_singleton]
      by_cases inside : count < bound
      · simp only [inside, decide_true, if_true]
        omega
      · simp only [inside, decide_false, Bool.false_eq_true, if_false]
        omega

end Counting
