import RxTech.Library.DecimalText
import RxTech.Protocol.DatagramPipeline

/-!
# Address texts

The two readings of a configured IPv4 address: `parse_ipv4_be` of the datagram pipeline
and the `sscanf` of the file replay. They agree on dotted quads.
-/

set_option autoImplicit false

namespace RxTech

open DecimalText (IsNumeral scan skipSpace value)

/-- `stream >> octet` for a `uint32_t`; out of range fails, a minus wraps around. -/
def streamOctet (text : List Char) : Option (Nat × List Char) :=
  match scan text with
  | none => none
  | some (negative, magnitude, rest) =>
      if magnitude < 2 ^ 32 then
        some (if negative then (2 ^ 32 - magnitude) % 2 ^ 32 else magnitude, rest)
      else none

/-- `stream >> dot`. -/
def streamChar (text : List Char) : Option (Char × List Char) :=
  match skipSpace text with
  | [] => none
  | char :: rest => some (char, rest)

def ofOctets (a b c d : Nat) : Nat := a <<< 24 ||| b <<< 16 ||| c <<< 8 ||| d

/-- `parse_ipv4_be`; what follows the last octet is not read. -/
def parseIpv4Be (ipv4 : String) : Nat :=
  let read : Option Nat := do
    let (a, text) ← streamOctet ipv4.toList
    let (dot1, text) ← streamChar text
    let (b, text) ← streamOctet text
    let (dot2, text) ← streamChar text
    let (c, text) ← streamOctet text
    let (dot3, text) ← streamChar text
    let (d, _) ← streamOctet text
    if dot1 ≠ '.' ∨ dot2 ≠ '.' ∨ dot3 ≠ '.' then none
    else if a > 255 ∨ b > 255 ∨ c > 255 ∨ d > 255 then none
    else some (ofOctets a b c d)
  read.getD 0

/-- `%u` stores the result of `strtoul` in 32 bits. -/
def scanfUnsigned (text : List Char) : Option (UInt32 × List Char) :=
  match scan text with
  | none => none
  | some (negative, magnitude, rest) =>
      let long :=
        if magnitude < 2 ^ 64 then
          if negative then (2 ^ 64 - magnitude) % 2 ^ 64 else magnitude
        else 2 ^ 64 - 1
      some (UInt32.ofNat long, rest)

/-- A `.` in the format. -/
def scanfDot : List Char → Option (List Char)
  | '.' :: rest => some rest
  | _ => none

/-- `sscanf(ip, "%u.%u.%u.%u", &a, &b, &c, &d) == 4`, and the address put together. -/
def scanfIpv4Be (ipv4 : String) : Option UInt32 := do
  let (a, text) ← scanfUnsigned ipv4.toList
  let text ← scanfDot text
  let (b, text) ← scanfUnsigned text
  let text ← scanfDot text
  let (c, text) ← scanfUnsigned text
  let text ← scanfDot text
  let (d, _) ← scanfUnsigned text
  return a <<< 24 ||| b <<< 16 ||| c <<< 8 ||| d

/-- The pipeline of the constructor. -/
def UdpDatagramPipeline.fromConfig (config : RxConfig) : UdpDatagramPipeline :=
  .ofConfig config (parseIpv4Be config.allowedSourceIpv4) (parseIpv4Be config.receiverIpv4)

/-! ## Dotted quads -/

structure IsOctet (digits : List Char) : Prop where
  numeral : IsNumeral digits
  small : value digits ≤ 255

theorem IsOctet.of_all {digits : List Char} (nonempty : digits ≠ [])
    (all : digits.all Char.isDigit = true) (small : value digits ≤ 255) : IsOctet digits :=
  ⟨⟨nonempty, List.all_eq_true.mp all⟩, small⟩

/-- Four octets and nothing else; leading zeros are allowed. -/
def DottedQuad (ipv4 : String) (ipv4Be : UInt32) : Prop :=
  ∃ a b c d, IsOctet a ∧ IsOctet b ∧ IsOctet c ∧ IsOctet d ∧
    ipv4.toList = a ++ '.' :: (b ++ '.' :: (c ++ '.' :: d)) ∧
    ipv4Be = UInt32.ofNat (ofOctets (value a) (value b) (value c) (value d))

private theorem ofOctets_eq {a b c d : Nat} (small : a ≤ 255 ∧ b ≤ 255 ∧ c ≤ 255 ∧ d ≤ 255) :
    ofOctets a b c d = a * 2 ^ 24 + b * 2 ^ 16 + c * 2 ^ 8 + d := by
  obtain ⟨first, second, third, fourth⟩ := small
  have low : c <<< 8 ||| d = c * 2 ^ 8 + d := by
    rw [← Nat.shiftLeft_add_eq_or_of_lt (by omega), Nat.shiftLeft_eq]
  have middle : b <<< 16 ||| (c <<< 8 ||| d) = b * 2 ^ 16 + c * 2 ^ 8 + d := by
    rw [low, ← Nat.shiftLeft_add_eq_or_of_lt (by omega), Nat.shiftLeft_eq]
    omega
  rw [ofOctets, Nat.or_assoc, Nat.or_assoc, middle, ← Nat.shiftLeft_add_eq_or_of_lt (by omega),
    Nat.shiftLeft_eq]
  omega

section Octets

variable {digits rest : List Char}

theorem IsOctet.streamed (octet : IsOctet digits)
    (ends : ∀ char ∈ rest.head?, char.isDigit = false) :
    streamOctet (digits ++ rest) = some (value digits, rest) := by
  have small := octet.small
  rw [streamOctet, DecimalText.scan_numeral octet.numeral ends]
  exact if_pos (by omega)

theorem IsOctet.scanned (octet : IsOctet digits)
    (ends : ∀ char ∈ rest.head?, char.isDigit = false) :
    scanfUnsigned (digits ++ rest) = some (UInt32.ofNat (value digits), rest) := by
  have small := octet.small
  have fits : value digits < 2 ^ 64 := by omega
  rw [scanfUnsigned, DecimalText.scan_numeral octet.numeral ends]
  simp only [if_pos fits]
  rfl

private theorem dot_ends : ∀ char ∈ ('.' :: rest).head?, char.isDigit = false := by
  intro char first
  cases first
  rfl

private theorem streamChar_dot : streamChar ('.' :: rest) = some ('.', rest) := rfl

end Octets

variable {ipv4 : String} {ipv4Be : UInt32}

theorem DottedQuad.nonempty (quad : DottedQuad ipv4 ipv4Be) : ipv4 ≠ "" := by
  obtain ⟨a, b, c, d, -, -, -, -, text, -⟩ := quad
  rintro rfl
  have blank : [] = a ++ '.' :: (b ++ '.' :: (c ++ '.' :: d)) := text
  simp at blank

theorem DottedQuad.parsed (quad : DottedQuad ipv4 ipv4Be) : parseIpv4Be ipv4 = ipv4Be.toNat := by
  obtain ⟨a, b, c, d, first, second, third, fourth, text, rfl⟩ := quad
  have last := @IsOctet.streamed d [] fourth (by simp)
  rw [List.append_nil] at last
  have small := And.intro first.small (And.intro second.small
    (And.intro third.small fourth.small))
  have fits : ofOctets (value a) (value b) (value c) (value d) < UInt32.size := by
    rw [ofOctets_eq small]
    change _ < 4294967296
    omega
  have inRange : ¬ (value a > 255 ∨ value b > 255 ∨ value c > 255 ∨ value d > 255) := by omega
  rw [UInt32.toNat_ofNat_of_lt' fits]
  simp [parseIpv4Be, text, first.streamed dot_ends, second.streamed dot_ends,
    third.streamed dot_ends, last, streamChar_dot, inRange]

theorem DottedQuad.scanned (quad : DottedQuad ipv4 ipv4Be) : scanfIpv4Be ipv4 = some ipv4Be := by
  obtain ⟨a, b, c, d, first, second, third, fourth, text, rfl⟩ := quad
  have last := @IsOctet.scanned d [] fourth (by simp)
  rw [List.append_nil] at last
  simp [scanfIpv4Be, text, first.scanned dot_ends, second.scanned dot_ends,
    third.scanned dot_ends, last, scanfDot, ofOctets]

end RxTech
