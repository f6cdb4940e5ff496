import Mathlib.Data.List.Nodup
import Mathlib.Data.Nat.Bitwise

/-!
# Flag words

A flag word is a number; `hasAny bits mask` asks whether the two share a bit.
-/

set_option autoImplicit false

namespace Bits

def hasAny (bits mask : Nat) : Bool := bits &&& mask != 0

@[simp] theorem hasAny_zero (mask : Nat) : hasAny 0 mask = false := by
  simp [hasAny]

theorem hasAny_or (left right mask : Nat) :
    hasAny (left ||| right) mask = (hasAny left mask || hasAny right mask) := by
  simp only [hasAny, Nat.and_or_distrib_right]
  rw [Bool.eq_iff_iff]
  simp only [bne_iff_ne, ne_eq, Nat.or_eq_zero_iff, Bool.or_eq_true]
  tauto

theorem hasAny_mask_or (bits left right : Nat) :
    hasAny bits (left ||| right) = (hasAny bits left || hasAny bits right) := by
  simp only [hasAny, Nat.and_or_distrib_left]
  rw [Bool.eq_iff_iff]
  simp only [bne_iff_ne, ne_eq, Nat.or_eq_zero_iff, Bool.or_eq_true]
  tauto

/-- Restricting a word to a mask does not change the answer for a smaller mask. -/
theorem hasAny_and_of_subset {bits mask part : Nat} (subset : mask &&& part = part) :
    hasAny (bits &&& mask) part = hasAny bits part := by
  simp only [hasAny, Nat.and_assoc, subset]

theorem hasAny_one_shiftLeft (bits index : Nat) :
    hasAny bits (1 <<< index) = bits.testBit index := by
  have shared : bits &&& 1 <<< index = (bits.testBit index).toNat * 2 ^ index := by
    rw [Nat.one_shiftLeft, Nat.and_two_pow]
  cases bit : bits.testBit index <;> simp [hasAny, shared, bit]

theorem testBit_or_one_shiftLeft (bits index other : Nat) :
    (bits ||| 1 <<< index).testBit other = (bits.testBit other || decide (index = other)) := by
  rw [Nat.one_shiftLeft, Nat.testBit_or, Nat.testBit_two_pow]

/-- The number of bits set among the lowest `width`. -/
def popcount (width bits : Nat) : Nat := (List.range width).countP fun index => bits.testBit index

/-- Distinct indices below `width` that are the bits set are as many. -/
theorem popcount_eq_length {width bits : Nat} {indices : List Nat} (distinct : indices.Nodup)
    (small : ∀ index ∈ indices, index < width)
    (set : ∀ index, bits.testBit index = true ↔ index ∈ indices) :
    popcount width bits = indices.length := by
  have same : ((List.range width).filter fun index => bits.testBit index).Perm indices := by
    refine (List.perm_ext_iff_of_nodup (List.nodup_range.filter _) distinct).mpr fun index => ?_
    simp only [List.mem_filter, List.mem_range, set]
    exact ⟨fun both => both.2, fun member => ⟨small index member, member⟩⟩
  rw [popcount, List.countP_eq_length_filter, same.length_eq]

end Bits
