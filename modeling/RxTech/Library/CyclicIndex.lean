import Mathlib.Data.Nat.ModEq
import Mathlib.Data.Nat.Bitwise

/-!
# Indices that wrap around

Counters that never wrap, seen modulo the size of a ring. Two counters less than
one round apart are equal when they are equal in the ring.
-/

set_option autoImplicit false

namespace CyclicIndex

variable {size first second : Nat}

theorem mod_eq_iff (ordered : first ≤ second) (close : second < first + size) :
    first % size = second % size ↔ first = second := by
  constructor
  · intro same
    have divides : size ∣ second - first := (Nat.modEq_iff_dvd' ordered).mp same
    have none := Nat.eq_zero_of_dvd_of_lt divides (by omega)
    omega
  · rintro rfl
    rfl

/-- The next index meets the other counter only after a full round. -/
theorem succ_mod_eq_iff (ordered : first ≤ second) (close : second < first + size) :
    (second + 1) % size = first % size ↔ second + 1 = first + size := by
  by_cases round : second + 1 = first + size
  · simp [round]
  · have apart : ¬ first = second + 1 := by omega
    rw [eq_comm, mod_eq_iff (by omega) (by omega)]
    simp only [apart, round]

theorem and_mask {mask exponent : Nat} (power : mask + 1 = 2 ^ exponent) (index : Nat) :
    index &&& mask = index % (mask + 1) := by
  have is : mask = 2 ^ exponent - 1 := by omega
  rw [power, is, Nat.and_two_pow_sub_one_eq_mod]

theorem next_eq {mask exponent : Nat} (power : mask + 1 = 2 ^ exponent) (counter : Nat) :
    (counter % (mask + 1) + 1) &&& mask = (counter + 1) % (mask + 1) := by
  rw [and_mask power, Nat.mod_add_mod]

end CyclicIndex
