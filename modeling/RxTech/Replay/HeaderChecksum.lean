import RxTech.Library.PartialLoop
import RxTech.Replay.FrameBuilder

/-!
# The header checksum of the frame builder

`ipv4_checksum` with its 32-bit sum: the loop that folds the carries ends, and the header
that `build_eth_frame` writes adds up to all ones.
-/

set_option autoImplicit false

namespace RxTech

open InternetChecksum

namespace HeaderChecksum

/-- The word of two bytes. -/
def word (high low : UInt8) : UInt16 := high.toUInt16 <<< 8 ||| low.toUInt16

/-- The loop over the words; the sum has 32 bits. -/
def addWords : List UInt8 → UInt32 → UInt32
  | [], sum => sum
  | [high], sum => sum + (word high 0).toUInt32
  | high :: low :: rest, sum => addWords rest (sum + (word high low).toUInt32)

/-- A turn of the loop that folds the carries; `none` where the loop ends. -/
def nextFold (sum : UInt32) : Option UInt32 :=
  if sum >>> 16 ≠ 0 then some ((sum &&& (0xFFFF : UInt32)) + (sum >>> 16)) else none

/-- `ipv4_checksum`; `none` if `fuel` turns of the folding loop are too few. -/
def ipv4Checksum (fuel : Nat) (hdr : List UInt8) : Option UInt16 :=
  (PartialLoop.run nextFold fuel (addWords hdr 0)).map fun sum => (~~~sum).toUInt16

/-! ## Adding the words -/

private theorem toNat_word (high low : UInt8) :
    (word high low).toNat = high.toNat * 2 ^ 8 + low.toNat := by
  have eight : (8 : UInt16).toNat % 16 = 8 := rfl
  have inside := high.toNat_lt
  have shifted : high.toNat <<< 8 % 2 ^ 16 = high.toNat <<< 8 := by
    rw [Nat.shiftLeft_eq]
    exact Nat.mod_eq_of_lt (by omega)
  rw [word, UInt16.toNat_or, UInt16.toNat_shiftLeft, UInt8.toNat_toUInt16, UInt8.toNat_toUInt16,
    eight, shifted, ← Nat.shiftLeft_add_eq_or_of_lt low.toNat_lt, Nat.shiftLeft_eq]

private theorem toNat_add_word {sum : UInt32} {high low : UInt8}
    (fits : sum.toNat + (high.toNat * 2 ^ 8 + low.toNat) < 2 ^ 32) :
    (sum + (word high low).toUInt32).toNat = sum.toNat + (high.toNat * 2 ^ 8 + low.toNat) := by
  rw [UInt32.toNat_add, UInt16.toNat_toUInt32, toNat_word]
  exact Nat.mod_eq_of_lt fits

/-- The 32-bit sum is the sum of the words while that has 32 bits. -/
theorem addWords_toNat {hdr : List UInt8} {sum : UInt32}
    (fits : sum.toNat + wordSum hdr < 2 ^ 32) :
    (addWords hdr sum).toNat = sum.toNat + wordSum hdr := by
  fun_induction addWords hdr sum with
  | case1 sum => rfl
  | case2 high sum =>
      have zero : (0 : UInt8).toNat = 0 := rfl
      have added := @toNat_add_word sum high 0
      rw [zero, Nat.add_zero] at added
      exact added fits
  | case3 high low rest sum ih =>
      rw [wordSum, ← Nat.add_assoc] at fits ⊢
      have added := @toNat_add_word sum high low (by omega)
      rw [ih (by omega), added]

private theorem wordSum_le (bytes : List UInt8) : wordSum bytes ≤ 2 ^ 16 * bytes.length := by
  fun_induction wordSum bytes with
  | case1 => exact Nat.le_refl _
  | case2 high =>
      have := high.toNat_lt
      simp only [List.length_singleton]
      omega
  | case3 high low rest ih =>
      have := high.toNat_lt
      have := low.toNat_lt
      simp only [List.length_cons]
      omega

/-! ## Folding the carries -/

theorem toNat_shift (sum : UInt32) : (sum >>> 16).toNat = sum.toNat / 2 ^ 16 := by
  have sixteen : (16 : UInt32).toNat % 32 = 16 := rfl
  rw [UInt32.toNat_shiftRight, sixteen, Nat.shiftRight_eq_div_pow]

private theorem nextFold_eq_none {sum : UInt32} (stopped : nextFold sum = none) :
    sum.toNat < 2 ^ 16 := by
  unfold nextFold at stopped
  split at stopped
  · cases stopped
  · rename_i folded
    have noCarry : (sum >>> 16).toNat = 0 := congrArg UInt32.toNat (not_not.mp folded)
    rw [toNat_shift] at noCarry
    omega

private theorem nextFold_eq_some {sum next : UInt32} (turned : nextFold sum = some next) :
    2 ^ 16 ≤ sum.toNat ∧ next.toNat = sum.toNat % 2 ^ 16 + sum.toNat / 2 ^ 16 := by
  unfold nextFold at turned
  split at turned
  · rename_i carry
    cases turned
    have inside : sum.toNat < 2 ^ 32 := sum.toNat_lt
    have low : (sum &&& 0xFFFF).toNat = sum.toNat % 2 ^ 16 :=
      (UInt32.toNat_and ..).trans (Nat.and_two_pow_sub_one_eq_mod sum.toNat 16)
    constructor
    · by_contra small
      apply carry
      apply UInt32.toNat_inj.mp
      rw [toNat_shift]
      exact Nat.div_eq_of_lt (Nat.lt_of_not_le small)
    · rw [UInt32.toNat_add, low, toNat_shift]
      exact Nat.mod_eq_of_lt (by omega)
  · cases turned

/-- What is known after `count` turns: a second carry is at most 1, a third there is not. -/
structure Folding (start count : Nat) (sum : UInt32) : Prop where
  few : count < 3
  first : 1 ≤ count → sum.toNat ≤ 2 ^ 17 - 2
  second : 2 ≤ count → sum.toNat < 2 ^ 16
  ahead : foldCarries sum.toNat = foldCarries start

theorem Folding.turn {start : Nat} (count : Nat) (sum next : UInt32)
    (folding : Folding start count sum) (turned : nextFold sum = some next) :
    Folding start (count + 1) next := by
  obtain ⟨few, first, second, ahead⟩ := folding
  obtain ⟨large, value⟩ := nextFold_eq_some turned
  have inside : sum.toNat < 2 ^ 32 := sum.toNat_lt
  have notLast : ¬ 2 ≤ count := fun last => absurd (second last) (Nat.not_lt.mpr large)
  refine ⟨by omega, fun _ => by omega, fun later => ?_, ?_⟩
  · have := first (by omega)
    omega
  · rw [← ahead, foldCarries.eq_def sum.toNat, if_pos large, value]

/-- The folding loop ends for every sum, in its third test at the latest. -/
theorem fold_returns (sum : UInt32) :
    ∃ folded, (∀ fuel, 3 ≤ fuel → PartialLoop.run nextFold fuel sum = some folded) ∧
      folded.toNat = foldCarries sum.toNat := by
  have start : Folding sum.toNat 0 sum :=
    ⟨by decide, fun turned => absurd turned (by decide), fun turned => absurd turned (by decide),
      rfl⟩
  obtain ⟨count, folded, returns, stopped, folding⟩ :=
    PartialLoop.run_of_bound Folding.turn start fun _ _ folding => folding.few
  have small := nextFold_eq_none stopped
  refine ⟨folded, returns, ?_⟩
  rw [← folding.ahead, foldCarries.eq_def, if_neg (Nat.not_le.mpr small)]

/-- `ipv4_checksum` returns for every header of less than `2 ^ 16` bytes. -/
theorem ipv4Checksum_returns {hdr : List UInt8} (short : hdr.length < 2 ^ 16) {fuel : Nat}
    (enough : 3 ≤ fuel) : ipv4Checksum fuel hdr = some (RxTech.ipv4Checksum hdr) := by
  have few := wordSum_le hdr
  have zero : (0 : UInt32).toNat = 0 := rfl
  have added := @addWords_toNat hdr 0 (by omega)
  rw [zero, Nat.zero_add] at added
  obtain ⟨folded, returns, value⟩ := fold_returns (addWords hdr 0)
  rw [added] at value
  have inside := (foldCarries_folds (wordSum hdr)).word
  rw [ipv4Checksum, returns fuel enough, Option.map_some]
  refine congrArg some (UInt16.toNat_inj.mp ?_)
  have complement : (~~~folded).toNat = 2 ^ 32 - 1 - folded.toNat := UInt32.toNat_not folded
  have fits : checksum hdr < 2 ^ 16 := checksum_lt hdr
  rw [UInt32.toNat_toUInt16, complement, value, RxTech.ipv4Checksum,
    UInt16.toNat_ofNat_of_lt' fits, checksum, Nat.mod_eq_of_lt inside]
  omega

end HeaderChecksum

/-! ## The header of a frame -/

namespace FrameConfig

private theorem header_blanked (cfg : FrameConfig) (length : Nat) (seq ipcsum : UInt16) :
    ((cfg.header length seq ipcsum).ipv4Header.set 10 0).set 11 0 =
      (cfg.header length seq 0).ipv4Header := by
  have high : ((0 : UInt16) >>> 8).toUInt8 = 0 := rfl
  have filled := cfg.header_filled length seq ipcsum 0
  rwa [high] at filled

private theorem header_verifies (cfg : FrameConfig) (length : Nat) (seq : UInt16) :
    onesSum (words (cfg.header length seq (cfg.ipcsum length seq)).ipv4Header) = 0xFFFF := by
  apply UdpFrameHeader.ipv4Header_verifies
  exact UInt16.toNat_ofNat_of_lt' (checksum_lt (cfg.header length seq 0).ipv4Header)

end FrameConfig

open HeaderChecksum in
/-- Whatever the addresses, the sequence number and the payload: the checksum of the header
with a blank checksum field is computed, and with it in its place the ten words of the header
add up to all ones. -/
theorem buildEthFrame_header_verifies (cfg : FrameConfig) (seq : UInt16) (payload : List UInt8) :
    let header := ((buildEthFrame payload cfg seq).drop 14).take 20
    let blank := (header.set 10 0).set 11 0
    ∃ ipcsum : UInt16,
      (∀ fuel, 3 ≤ fuel → HeaderChecksum.ipv4Checksum fuel blank = some ipcsum) ∧
      header = (blank.set 10 (ipcsum >>> 8).toUInt8).set 11 ipcsum.toUInt8 ∧
      (words header).length = 10 ∧ onesSum (words header) = 0xFFFF := by
  intro header blank
  have isHeader : header =
      (cfg.header payload.length seq (cfg.ipcsum payload.length seq)).ipv4Header := by
    change ((buildEthFrame payload cfg seq).drop 14).take 20 = _
    rw [buildEthFrame_frame, UdpFrameHeader.frame_ipv4Header]
  have isBlank : blank = (cfg.header payload.length seq 0).ipv4Header := by
    change (header.set 10 0).set 11 0 = _
    rw [isHeader, FrameConfig.header_blanked]
  refine ⟨cfg.ipcsum payload.length seq, fun fuel enough => ?_, ?_, ?_, ?_⟩
  · rw [isBlank]
    have short := (cfg.header payload.length seq 0).ipv4Header_length
    exact ipv4Checksum_returns (by omega) enough
  · rw [isBlank, isHeader, FrameConfig.header_filled]
  · rw [isHeader]
    rfl
  · rw [isHeader]
    exact cfg.header_verifies payload.length seq

end RxTech
