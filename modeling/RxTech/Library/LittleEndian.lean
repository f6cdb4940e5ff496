import Mathlib.Data.Nat.Digits.Defs

/-!
# Little-endian fields

Unsigned numbers as byte sequences, least significant byte first, and the fields
of a longer sequence.
-/

set_option autoImplicit false

namespace LittleEndian

/-- The number that the bytes spell. -/
def value (bytes : List UInt8) : Nat := Nat.ofDigits 256 (bytes.map UInt8.toNat)

/-- `number` in `width` bytes. -/
def encode : Nat → Nat → List UInt8
  | 0, _ => []
  | width + 1, number => UInt8.ofNat number :: encode width (number / 256)

/-- The number in the `width` bytes from `offset` on. -/
def field (bytes : List UInt8) (offset width : Nat) : Nat :=
  value ((bytes.drop offset).take width)

@[simp] theorem value_nil : value [] = 0 := rfl

@[simp] theorem value_cons (byte : UInt8) (rest : List UInt8) :
    value (byte :: rest) = byte.toNat + 256 * value rest := by
  simp [value, Nat.ofDigits_cons]

theorem value_lt (bytes : List UInt8) : value bytes < 256 ^ bytes.length := by
  have digits : ∀ digit ∈ bytes.map UInt8.toNat, digit < 256 := by
    intro digit member
    obtain ⟨byte, -, rfl⟩ := List.mem_map.mp member
    exact byte.toNat_lt
  have bounded := Nat.ofDigits_lt_base_pow_length (by decide : 1 < 256) digits
  rwa [List.length_map] at bounded

@[simp] theorem encode_length (width number : Nat) : (encode width number).length = width := by
  induction width generalizing number with
  | zero => rfl
  | succ width ih => simp [encode, ih]

theorem value_encode {width number : Nat} (fits : number < 256 ^ width) :
    value (encode width number) = number := by
  induction width generalizing number with
  | zero =>
      rw [Nat.pow_zero, Nat.lt_one_iff] at fits
      exact fits.symm
  | succ width ih =>
      have quotient : number / 256 < 256 ^ width := by
        rw [Nat.pow_succ] at fits
        exact Nat.div_lt_of_lt_mul (by rwa [Nat.mul_comm])
      have digit : (UInt8.ofNat number).toNat = number % 256 := UInt8.toNat_ofNat'
      rw [encode, value_cons, ih quotient, digit]
      exact Nat.mod_add_div number 256

theorem field_lt (bytes : List UInt8) (offset width : Nat) :
    field bytes offset width < 256 ^ width := by
  have bounded := value_lt ((bytes.drop offset).take width)
  have short : ((bytes.drop offset).take width).length ≤ width := List.length_take_le ..
  exact Nat.lt_of_lt_of_le bounded (Nat.pow_le_pow_right (by decide) short)

/-- The field at the head of a sequence that begins with an encoded number. -/
theorem field_encode {width number : Nat} (fits : number < 256 ^ width) (rest : List UInt8) :
    field (encode width number ++ rest) 0 width = number := by
  rw [field, List.drop_zero, List.take_left' (encode_length width number), value_encode fits]

theorem drop_encode_append (width number : Nat) (rest : List UInt8) (offset : Nat) :
    (encode width number ++ rest).drop (width + offset) = rest.drop offset := by
  have consumed : (encode width number).drop (width + offset) = [] :=
    List.drop_eq_nil_of_le (by rw [encode_length]; exact Nat.le_add_right ..)
  rw [List.drop_append, consumed, List.nil_append, encode_length, Nat.add_sub_cancel_left]

theorem field_encode_append (width number : Nat) (rest : List UInt8) (offset other : Nat) :
    field (encode width number ++ rest) (width + offset) other = field rest offset other := by
  rw [field, field, drop_encode_append]

/-- A field behind what comes before it. -/
theorem field_append (before rest : List UInt8) (offset width : Nat) :
    field (before ++ rest) (before.length + offset) width = field rest offset width := by
  rw [field, field, List.drop_append, Nat.add_sub_cancel_left,
    List.drop_eq_nil_of_le (Nat.le_add_right ..), List.nil_append]

theorem field_succ {bytes : List UInt8} {offset : Nat} (inside : offset < bytes.length)
    (width : Nat) :
    field bytes offset (width + 1) =
      (bytes.getD offset 0).toNat + 256 * field bytes (offset + 1) width := by
  rw [field, List.drop_eq_getElem_cons inside, List.take_succ_cons, value_cons, field,
    List.getD_eq_getElem?_getD, List.getElem?_eq_getElem inside]
  rfl

/-- A field that ends where the bytes are cut off, or before. -/
theorem field_take {bytes : List UInt8} {offset width length : Nat}
    (inside : offset + width ≤ length) :
    field (bytes.take length) offset width = field bytes offset width := by
  rw [field, field, List.drop_take, List.take_take, Nat.min_eq_left (by omega)]

@[simp] theorem field_zero (bytes : List UInt8) (offset : Nat) : field bytes offset 0 = 0 := by
  simp [field]

end LittleEndian
