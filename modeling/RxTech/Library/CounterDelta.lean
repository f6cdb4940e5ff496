import Mathlib.Data.List.Basic

/-!
# Deltas of a wrapping counter

A counter of limited width is read from time to time, and the differences of the readings
are added up. A reading below the one before it is taken for a restart and adds nothing.
-/

set_option autoImplicit false

namespace CounterDelta

structure Tracker where
  last : Nat := 0
  sum : Nat := 0
  deriving DecidableEq, Repr

def observe (tracker : Tracker) (reading : Nat) : Tracker :=
  if reading < tracker.last then { tracker with last := reading }
  else { last := reading, sum := tracker.sum + (reading - tracker.last) }

/-- The tracker is up to date with a count that the counter shows modulo `modulus`: its sum
never exceeds the count, and equals it as long as the counter has not wrapped around. -/
structure Follows (modulus count : Nat) (tracker : Tracker) : Prop where
  last : tracker.last = count % modulus
  sum : tracker.sum ≤ count
  exact : tracker.sum = count ↔ count < modulus

variable {modulus count next : Nat} {tracker : Tracker}

theorem follows_zero (positive : 0 < modulus) : Follows modulus 0 {} :=
  ⟨(Nat.zero_mod modulus).symm, Nat.le_refl 0, iff_of_true rfl positive⟩

theorem Follows.observe (follows : Follows modulus count tracker) (positive : 0 < modulus)
    (later : count ≤ next) : Follows modulus next (observe tracker (next % modulus)) := by
  obtain ⟨last, sum, exact⟩ := follows
  have before := Nat.div_add_mod count modulus
  have after := Nat.div_add_mod next modulus
  have shown : next % modulus < modulus := Nat.mod_lt next positive
  have grown : modulus * (count / modulus) ≤ modulus * (next / modulus) :=
    Nat.mul_le_mul_left modulus (Nat.div_le_div_right later)
  rw [CounterDelta.observe]
  split
  next restarted =>
    -- The counter shows less than before: it has wrapped around, and the growth is lost.
    rw [last] at restarted
    have wrapped : modulus ≤ next := by
      by_contra below
      have unwrapped := Nat.mod_eq_of_lt (Nat.lt_of_not_le below)
      have bounded := Nat.mod_le count modulus
      omega
    have different : count ≠ next := by
      rintro rfl
      exact Nat.lt_irrefl _ restarted
    refine ⟨rfl, Nat.le_trans sum later, iff_of_false ?_ (Nat.not_lt_of_le wrapped)⟩
    change tracker.sum ≠ next
    omega
  next onward =>
    rw [last] at onward
    refine ⟨rfl, ?_, ?_⟩
    · change tracker.sum + (next % modulus - tracker.last) ≤ next
      omega
    · change tracker.sum + (next % modulus - tracker.last) = next ↔ next < modulus
      constructor
      · intro all
        -- Nothing is lost now, so nothing was lost before and no wrap lies between.
        have same : tracker.sum = count := by omega
        have early : count < modulus := exact.mp same
        have first : count % modulus = count := Nat.mod_eq_of_lt early
        omega
      · intro early
        have whole := exact.mpr (Nat.lt_of_le_of_lt later early)
        have first : count % modulus = count := Nat.mod_eq_of_lt (Nat.lt_of_le_of_lt later early)
        have second : next % modulus = next := Nat.mod_eq_of_lt early
        omega

/-- The sum of the differences after all readings of a count that never falls. -/
theorem follows_foldl (positive : 0 < modulus) {counts : List Nat}
    (rising : (count :: counts).Pairwise (· ≤ ·)) (follows : Follows modulus count tracker) :
    Follows modulus (counts.getLastD count)
      ((counts.map (· % modulus)).foldl observe tracker) := by
  induction counts generalizing count tracker with
  | nil => exact follows
  | cons next rest ih =>
      obtain ⟨first, others⟩ := List.pairwise_cons.mp rising
      have step := follows.observe positive (first next List.mem_cons_self)
      rw [List.getLastD_cons]
      exact ih others step

end CounterDelta
