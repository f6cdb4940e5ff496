import Mathlib.Data.List.TakeDrop
import Mathlib.Data.Nat.Notation

/-!
# Decimal text

Scanning a number at the front of a text: white space, a sign, and digits.
-/

set_option autoImplicit false

namespace DecimalText

/-- White space of the C locale. -/
def isSpace (char : Char) : Bool :=
  char = ' ' || (9 ≤ char.toNat && char.toNat ≤ 13)

def skipSpace (text : List Char) : List Char := text.dropWhile isSpace

def value (digits : List Char) : Nat :=
  digits.foldl (fun value digit => 10 * value + (digit.toNat - '0'.toNat)) 0

/-- Whether there is a minus, and what follows the sign. -/
def sign : List Char → Bool × List Char
  | [] => (false, [])
  | char :: rest =>
      if char = '-' then (true, rest)
      else if char = '+' then (false, rest)
      else (false, char :: rest)

/-- The sign, the magnitude and the rest of the text. -/
def scan (text : List Char) : Option (Bool × Nat × List Char) :=
  let (negative, text) := sign (skipSpace text)
  let digits := text.takeWhile Char.isDigit
  if digits = [] then none
  else some (negative, value digits, text.dropWhile Char.isDigit)

/-- A number without a sign. -/
structure IsNumeral (digits : List Char) : Prop where
  nonempty : digits ≠ []
  isDigit : ∀ char ∈ digits, char.isDigit = true

theorem isSpace_of_isDigit {char : Char} (digit : char.isDigit = true) :
    isSpace char = false := by
  have range := Char.isDigit_iff_toNat.mp digit
  have zero : '0'.toNat = 48 := rfl
  have blank : char ≠ ' ' := by
    rintro rfl
    revert range
    decide
  simp only [isSpace, blank, decide_false, Bool.false_or, Bool.and_eq_false_iff,
    decide_eq_false_iff_not]
  omega

theorem skipSpace_of_isDigit {char : Char} (digit : char.isDigit = true) (rest : List Char) :
    skipSpace (char :: rest) = char :: rest :=
  List.dropWhile_cons_of_neg (by simp [isSpace_of_isDigit digit])

theorem sign_of_isDigit {char : Char} (digit : char.isDigit = true) (rest : List Char) :
    sign (char :: rest) = (false, char :: rest) := by
  have minus : char ≠ '-' := by
    rintro rfl
    revert digit
    decide
  have plus : char ≠ '+' := by
    rintro rfl
    revert digit
    decide
  simp only [sign, if_neg minus, if_neg plus]

/-- A numeral is scanned up to the next character that is no digit. -/
theorem scan_numeral {digits rest : List Char} (numeral : IsNumeral digits)
    (ends : ∀ char ∈ rest.head?, char.isDigit = false) :
    scan (digits ++ rest) = some (false, value digits, rest) := by
  obtain ⟨nonempty, isDigit⟩ := numeral
  have taken : (digits ++ rest).takeWhile Char.isDigit = digits := by
    rw [List.takeWhile_append_of_pos isDigit]
    cases rest with
    | nil => simp
    | cons char rest => simp [ends char rfl]
  have dropped : (digits ++ rest).dropWhile Char.isDigit = rest := by
    rw [List.dropWhile_append_of_pos isDigit]
    cases rest with
    | nil => rfl
    | cons char rest => simp [ends char rfl]
  have signed : sign (skipSpace (digits ++ rest)) = (false, digits ++ rest) := by
    cases digits with
    | nil => exact absurd rfl nonempty
    | cons digit digits =>
        have first := isDigit digit (by simp)
        rw [List.cons_append, skipSpace_of_isDigit first, sign_of_isDigit first]
  simp only [scan, signed, taken, dropped, if_neg nonempty]

/-! ## What is scanned -/

/-- A sign, which may be missing. -/
inductive IsSign : List Char → Bool → Prop where
  | none : IsSign [] false
  | plus : IsSign ['+'] false
  | minus : IsSign ['-'] true

/-- White space, a sign and all the digits that follow. -/
structure IsNumber (text : List Char) (negative : Bool) (magnitude : Nat) (rest : List Char)
    (spaces signs digits : List Char) : Prop where
  split : text = spaces ++ (signs ++ (digits ++ rest))
  blank : ∀ char ∈ spaces, isSpace char = true
  isSign : IsSign signs negative
  numeral : IsNumeral digits
  magnitude_eq : value digits = magnitude
  ends : ∀ char ∈ rest.head?, char.isDigit = false

theorem skipSpace_append {spaces : List Char} (blank : ∀ char ∈ spaces, isSpace char = true)
    (text : List Char) : skipSpace (spaces ++ text) = skipSpace text :=
  List.dropWhile_append_of_pos blank

theorem IsSign.sign_append {signs : List Char} {negative : Bool} (isSign : IsSign signs negative)
    {digits : List Char} (numeral : IsNumeral digits) (rest : List Char) :
    sign (skipSpace (signs ++ (digits ++ rest))) = (negative, digits ++ rest) := by
  cases isSign with
  | none =>
      obtain ⟨nonempty, isDigit⟩ := numeral
      cases digits with
      | nil => exact absurd rfl nonempty
      | cons digit digits =>
          have first := isDigit digit List.mem_cons_self
          rw [List.nil_append, List.cons_append, skipSpace_of_isDigit first,
            sign_of_isDigit first]
  | plus => rfl
  | minus => rfl

theorem exists_isSign {negative : Bool} {text rest : List Char}
    (signed : sign text = (negative, rest)) :
    ∃ signs, text = signs ++ rest ∧ IsSign signs negative := by
  cases text with
  | nil =>
      cases signed
      exact ⟨[], rfl, .none⟩
  | cons char text =>
      rw [sign] at signed
      split at signed
      · rename_i minus
        cases signed
        exact ⟨['-'], congrArg (· :: _) minus, .minus⟩
      split at signed
      · rename_i plus
        cases signed
        exact ⟨['+'], congrArg (· :: _) plus, .plus⟩
      · cases signed
        exact ⟨[], rfl, .none⟩

/-- A scan behind its sign. -/
theorem scan_of_sign {text rest : List Char} {negative : Bool} {digits : List Char}
    (signed : sign (skipSpace text) = (negative, digits ++ rest)) (numeral : IsNumeral digits)
    (ends : ∀ char ∈ rest.head?, char.isDigit = false) :
    scan text = some (negative, value digits, rest) := by
  have plain := scan_numeral numeral ends
  have unsigned := IsSign.none.sign_append numeral rest
  rw [List.nil_append] at unsigned
  rw [scan, unsigned] at plain
  rw [scan, signed]
  dsimp only at plain ⊢
  split at plain
  · cases plain
  · rename_i nonempty
    obtain ⟨-, found⟩ := Prod.mk.inj (Option.some.inj plain)
    rw [if_neg nonempty, found]

theorem scan_eq_some_iff {text rest : List Char} {negative : Bool} {magnitude : Nat} :
    scan text = some (negative, magnitude, rest) ↔
      ∃ spaces signs digits, IsNumber text negative magnitude rest spaces signs digits := by
  constructor
  · intro scanned
    rw [scan] at scanned
    generalize signed : sign (skipSpace text) = found at scanned
    obtain ⟨minus, behind⟩ := found
    obtain ⟨signs, split, isSign⟩ := exists_isSign signed
    dsimp only at scanned
    split at scanned
    · cases scanned
    rename_i nonempty
    cases scanned
    refine ⟨text.takeWhile isSpace, signs, behind.takeWhile Char.isDigit, ?_, ?_, isSign,
      ⟨nonempty, ?_⟩, rfl, ?_⟩
    · rw [List.takeWhile_append_dropWhile, ← split, skipSpace, List.takeWhile_append_dropWhile]
    · exact fun char member => List.all_eq_true.mp List.all_takeWhile char member
    · exact fun char member => List.all_eq_true.mp List.all_takeWhile char member
    · intro char first
      have stopped := List.head?_dropWhile_not Char.isDigit behind
      rw [Option.mem_def.mp first] at stopped
      exact stopped
  · rintro ⟨spaces, signs, digits, rfl, blank, isSign, numeral, rfl, ends⟩
    apply scan_of_sign _ numeral ends
    rw [skipSpace_append blank, isSign.sign_append numeral]

end DecimalText
