import Mathlib.Data.Nat.ModEq
import Mathlib.Data.UInt

/-!
# The Internet checksum

Sums of 16-bit words with the carries added back in, and why the sum over bytes that hold
their own checksum is all ones.
-/

set_option autoImplicit false

namespace InternetChecksum

/-- The sum of the big-endian words; a missing last byte is zero. -/
def wordSum : List UInt8 → Nat
  | [] => 0
  | [high] => high.toNat * 2 ^ 8
  | high :: low :: rest => high.toNat * 2 ^ 8 + low.toNat + wordSum rest

/-- Adding the carries until none is left. -/
def foldCarries (sum : Nat) : Nat :=
  if 2 ^ 16 ≤ sum then foldCarries (sum % 2 ^ 16 + sum / 2 ^ 16) else sum
termination_by sum
decreasing_by omega

/-- The complement of the folded sum. -/
def checksum (bytes : List UInt8) : Nat := 2 ^ 16 - 1 - foldCarries (wordSum bytes) % 2 ^ 16

theorem checksum_lt (bytes : List UInt8) : checksum bytes < 2 ^ 16 := by
  simp only [checksum]
  omega

/-! ## One's-complement arithmetic -/

/-- The big-endian words; a missing last byte is zero. -/
def words : List UInt8 → List Nat
  | [] => []
  | [high] => [high.toNat * 2 ^ 8]
  | high :: low :: rest => (high.toNat * 2 ^ 8 + low.toNat) :: words rest

/-- Addition of words with the carry added back in. -/
def addCarry (first second : Nat) : Nat :=
  (first + second) % 2 ^ 16 + (first + second) / 2 ^ 16

/-- The one's-complement sum. -/
def onesSum (words : List Nat) : Nat := words.foldl addCarry 0

/-- A word is what a sum folds to: it is in the residue class of the sum, and of the two
words for zero it is 0 only for a sum of nothing but zeros. -/
structure Folds (folded sum : Nat) : Prop where
  word : folded < 2 ^ 16
  residue : folded ≡ sum [MOD 2 ^ 16 - 1]
  zero : folded = 0 ↔ sum = 0

theorem Folds.unique {first second sum : Nat} (one : Folds first sum) (other : Folds second sum) :
    first = second := by
  have same : first % (2 ^ 16 - 1) = second % (2 ^ 16 - 1) := one.residue.trans other.residue.symm
  have zero : first = 0 ↔ second = 0 := one.zero.trans other.zero.symm
  have first_lt := one.word
  have second_lt := other.word
  omega

/-- Adding the carries changes neither the class nor whether the sum is zero. -/
theorem addCarries_modEq (sum : Nat) : sum % 2 ^ 16 + sum / 2 ^ 16 ≡ sum [MOD 2 ^ 16 - 1] := by
  have split : sum % 2 ^ 16 + sum / 2 ^ 16 + (2 ^ 16 - 1) * (sum / 2 ^ 16) = sum := by omega
  exact Nat.add_modulus_mul_modEq_iff.mp (congrArg (· % (2 ^ 16 - 1)) split)

theorem addCarries_eq_zero_iff (sum : Nat) : sum % 2 ^ 16 + sum / 2 ^ 16 = 0 ↔ sum = 0 := by
  omega

theorem foldCarries_folds (sum : Nat) : Folds (foldCarries sum) sum := by
  fun_induction foldCarries sum with
  | case1 sum large ih =>
      exact
        { word := ih.word
          residue := ih.residue.trans (addCarries_modEq sum)
          zero := ih.zero.trans (addCarries_eq_zero_iff sum) }
  | case2 sum small => exact ⟨Nat.lt_of_not_le small, .rfl, .rfl⟩

theorem Folds.add {folded sum word : Nat} (folds : Folds folded sum) (small : word < 2 ^ 16) :
    Folds (addCarry folded word) (sum + word) where
  word := by
    have inside := folds.word
    unfold addCarry
    omega
  residue := (addCarries_modEq (folded + word)).trans (folds.residue.add_right word)
  zero := by
    have zero := folds.zero
    rw [addCarry, addCarries_eq_zero_iff]
    omega

/-- The one's-complement sum, from any sum so far. -/
theorem Folds.words {folded sum : Nat} (folds : Folds folded sum) (bytes : List UInt8) :
    Folds ((words bytes).foldl addCarry folded) (sum + wordSum bytes) := by
  fun_induction wordSum bytes generalizing folded sum with
  | case1 => exact folds
  | case2 high =>
      have := high.toNat_lt
      exact folds.add (by omega)
  | case3 high low rest ih =>
      have := high.toNat_lt
      have := low.toNat_lt
      have next := ih (@Folds.add _ _ (high.toNat * 2 ^ 8 + low.toNat) folds (by omega))
      rw [Nat.add_assoc] at next
      exact next

/-- Carries may be added back in after every word or at the end. -/
theorem onesSum_words (bytes : List UInt8) :
    onesSum (words bytes) = foldCarries (wordSum bytes) := by
  have sums := Folds.words (⟨by decide, .rfl, .rfl⟩ : Folds 0 0) bytes
  rw [Nat.zero_add] at sums
  exact sums.unique (foldCarries_folds _)

/-! ## The checksum in its field -/

theorem wordSum_append {front : List UInt8} (even : front.length % 2 = 0) (back : List UInt8) :
    wordSum (front ++ back) = wordSum front + wordSum back := by
  fun_induction wordSum front with
  | case1 => exact (Nat.zero_add _).symm
  | case2 high => cases even
  | case3 high low rest ih =>
      have shorter : rest.length % 2 = 0 := by
        simp only [List.length_cons] at even
        omega
      rw [List.cons_append, List.cons_append, wordSum, ih shorter, Nat.add_assoc _ (wordSum rest)]

/-- A sum and the complement of what it folds to verify. -/
theorem foldCarries_complement {folded sum : Nat} (folds : Folds folded sum) :
    foldCarries (sum + (2 ^ 16 - 1 - folded)) = 2 ^ 16 - 1 := by
  have inside := folds.word
  have zero := folds.zero
  have residue : sum + (2 ^ 16 - 1 - folded) ≡ folded + (2 ^ 16 - 1 - folded) [MOD 2 ^ 16 - 1] :=
    folds.residue.symm.add_right _
  rw [Nat.add_sub_cancel' (by omega)] at residue
  exact (foldCarries_folds _).unique ⟨by decide, residue.symm, by omega⟩

/-- Bytes whose checksum stands in a field that was zero verify. -/
theorem onesSum_filled {front back : List UInt8} (even : front.length % 2 = 0) {high low : UInt8}
    (field : high.toNat * 2 ^ 8 + low.toNat = checksum (front ++ [0, 0] ++ back)) :
    onesSum (words (front ++ [high, low] ++ back)) = 2 ^ 16 - 1 := by
  have folds := foldCarries_folds (wordSum (front ++ [0, 0] ++ back))
  have blank : wordSum (front ++ [0, 0] ++ back) = wordSum front + wordSum back := by
    rw [List.append_assoc, wordSum_append even]
    exact congrArg _ (Nat.zero_add _)
  have filled : wordSum (front ++ [high, low] ++ back) =
      wordSum (front ++ [0, 0] ++ back) + (high.toNat * 2 ^ 8 + low.toNat) := by
    rw [blank, List.append_assoc, wordSum_append even]
    simp only [List.cons_append, List.nil_append, wordSum]
    omega
  rw [onesSum_words, filled, field, checksum, Nat.mod_eq_of_lt folds.word]
  exact foldCarries_complement folds

end InternetChecksum
