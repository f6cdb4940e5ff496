import RxTech.Library.PartialLoop
import RxTech.Output.SpscRing
import Mathlib.Order.Bounds.Basic
import Mathlib.Data.UInt

/-!
# The ring sizes over machine words

The loops of `normalize_spsc_usable_capacity` and of the `SpscRing` constructor over a
`size_t` of 64 bits, where a shift can lose its highest bit and a loop need not end. The
capacity asked for is rounded down to a number of the form `2 ^ k - 1`; the constructor's
rounding up then finds nothing to round.
-/

set_option autoImplicit false

namespace RxTech

namespace SizeT

/-- `(static_cast<std::size_t>(-1) - 1U) >> 1U`. -/
def lastToGrow : UInt64 := ((-1 : UInt64) - 1) >>> 1

/-- A turn of the loop of `normalize_spsc_usable_capacity`; `none` where the loop ends. -/
def nextUsable (requested usable : UInt64) : Option UInt64 :=
  if usable ≤ lastToGrow then
    let next := usable <<< 1 ||| 1
    if requested < next then none else some next
  else none

/-- `none` if the loop needs more than `fuel` turns. -/
def normalizeSpscUsableCapacity (fuel : Nat) (requested : UInt64) : Option UInt64 :=
  if requested ≤ 1 then some 1 else PartialLoop.run (nextUsable requested) fuel 1

/-- A turn of the loop of the `SpscRing` constructor. -/
def nextCap (minCapacity cap : UInt64) : Option UInt64 :=
  if cap < minCapacity + 1 then some (cap <<< 1) else none

/-- The sizes among the members of `SpscRing`. -/
structure RingSize where
  capacity_ : UInt64
  mask_ : UInt64
  deriving DecidableEq, Repr

/-- `SpscRing(min_capacity)`; `none` if its loop needs more than `fuel` turns. -/
def RingSize.new (fuel : Nat) (minCapacity : UInt64) : Option RingSize :=
  (PartialLoop.run (nextCap minCapacity) fuel 2).map fun cap =>
    { capacity_ := cap, mask_ := cap - 1 }

/-- `capacity()`. -/
def RingSize.capacity (ring : RingSize) : UInt64 := ring.capacity_ - 1

/-- `std::max<std::size_t>(1U, capacity)`: what `OwnerLoop::run` asks for. -/
def ringRequest (capacity : UInt32) : UInt64 := max 1 capacity.toUInt64

/-- No shift of the normalizing loop loses a bit. -/
def NormalizingFits (requested : UInt64) : Prop :=
  ∀ count usable, PartialLoop.turns (nextUsable requested) count 1 = some usable →
    usable ≤ lastToGrow → (usable <<< 1 ||| 1).toNat = 2 * usable.toNat + 1

/-- No operation of the constructor wraps around. -/
def ConstructorFits (minCapacity : UInt64) : Prop :=
  (minCapacity + 1).toNat = minCapacity.toNat + 1 ∧
    ∀ count cap, PartialLoop.turns (nextCap minCapacity) count 2 = some cap →
      cap < minCapacity + 1 → (cap <<< 1).toNat = 2 * cap.toNat

theorem toNat_shift {value : UInt64} (fits : value.toNat < 2 ^ 63) :
    (value <<< 1).toNat = 2 * value.toNat := by
  have one : (1 : UInt64).toNat % 64 = 1 := rfl
  rw [UInt64.toNat_shiftLeft, one, Nat.shiftLeft_eq, Nat.pow_one, Nat.mul_comm]
  exact Nat.mod_eq_of_lt (by omega)

private theorem toNat_shift_or {value : UInt64} (fits : value.toNat < 2 ^ 63) :
    (value <<< 1 ||| 1).toNat = 2 * value.toNat + 1 := by
  have one : (1 : UInt64).toNat = 1 := rfl
  have shifted : 2 * value.toNat = value.toNat <<< 1 := by
    rw [Nat.shiftLeft_eq, Nat.pow_one, Nat.mul_comm]
  rw [UInt64.toNat_or, toNat_shift fits, one, shifted]
  exact (Nat.shiftLeft_add_eq_or_of_lt (by decide) value.toNat).symm

private theorem le_lastToGrow_iff {usable : UInt64} :
    usable ≤ lastToGrow ↔ usable.toNat < 2 ^ 63 := by
  have last : lastToGrow.toNat + 1 = 2 ^ 63 := rfl
  rw [UInt64.le_iff_toNat_le]
  omega

/-! ## A turn of each loop -/

private theorem nextUsable_eq_some {requested usable next : UInt64}
    (turned : nextUsable requested usable = some next) :
    usable.toNat < 2 ^ 63 ∧ next.toNat = 2 * usable.toNat + 1 ∧
      2 * usable.toNat + 1 ≤ requested.toNat := by
  simp only [nextUsable] at turned
  split at turned
  · rename_i grows
    have fits := le_lastToGrow_iff.mp grows
    split at turned
    · cases turned
    · rename_i inside
      cases turned
      have value := toNat_shift_or fits
      rw [UInt64.lt_iff_toNat_lt, value] at inside
      exact ⟨fits, value, Nat.le_of_not_lt inside⟩
  · cases turned

private theorem nextUsable_eq_none {requested usable : UInt64}
    (stopped : nextUsable requested usable = none) : requested.toNat < 2 * usable.toNat + 1 := by
  simp only [nextUsable] at stopped
  split at stopped
  · rename_i grows
    split at stopped
    · rename_i beyond
      rwa [UInt64.lt_iff_toNat_lt, toNat_shift_or (le_lastToGrow_iff.mp grows)] at beyond
    · cases stopped
  · rename_i large
    -- nothing beyond a number of 64 ones can be asked for
    have inside : requested.toNat < 2 ^ 64 := requested.toNat_lt
    rw [le_lastToGrow_iff] at large
    omega

private theorem nextCap_eq_some {minCapacity cap next : UInt64}
    (turned : nextCap minCapacity cap = some next) :
    cap.toNat < (minCapacity + 1).toNat ∧ next = cap <<< 1 := by
  unfold nextCap at turned
  split at turned
  · rename_i grows
    cases turned
    exact ⟨UInt64.lt_iff_toNat_lt.mp grows, rfl⟩
  · cases turned

private theorem nextCap_eq_none {minCapacity cap : UInt64}
    (stopped : nextCap minCapacity cap = none) :
    (minCapacity + 1).toNat ≤ cap.toNat := by
  unfold nextCap at stopped
  split at stopped
  · cases stopped
  · rename_i enough
    exact UInt64.le_iff_toNat_le.mp (UInt64.not_lt.mp enough)

end SizeT

/-! ## Rounding down -/

/-- Between a number of the form `2 ^ k - 1` and the next such number there is none. -/
theorem allOnes_isGreatest {exponent requested : Nat} (fits : 2 ^ exponent - 1 ≤ requested)
    (tight : requested < 2 * (2 ^ exponent - 1) + 1) :
    IsGreatest {usable | (∃ k, usable = 2 ^ k - 1) ∧ usable ≤ requested} (2 ^ exponent - 1) := by
  refine ⟨⟨⟨exponent, rfl⟩, fits⟩, ?_⟩
  rintro _ ⟨⟨k, rfl⟩, inside⟩
  have smaller : 2 ^ k < 2 ^ (exponent + 1) := by
    have positive := Nat.two_pow_pos exponent
    have positive' := Nat.two_pow_pos k
    rw [Nat.pow_succ]
    omega
  have exponents : k ≤ exponent :=
    Nat.le_of_lt_succ ((Nat.pow_lt_pow_iff_right (Nat.lt_succ_self 1)).mp smaller)
  exact Nat.sub_le_sub_right (Nat.pow_le_pow_right (by decide) exponents) 1

namespace SizeT

section Normalize

variable {requested : UInt64}

/-- After `count` turns the capacity has `count + 1` ones, and the loop over numbers would
end where it ends from here. -/
def Normalizing (requested : UInt64) (count : Nat) (usable : UInt64) : Prop :=
  usable.toNat = 2 ^ (count + 1) - 1 ∧ usable.toNat ≤ requested.toNat ∧
    growUsable usable.toNat requested.toNat = growUsable 1 requested.toNat

theorem Normalizing.turn (count : Nat) (usable next : UInt64)
    (normalizing : Normalizing requested count usable)
    (turned : nextUsable requested usable = some next) : Normalizing requested (count + 1) next := by
  obtain ⟨shape, -, ahead⟩ := normalizing
  obtain ⟨fits, doubled, inside⟩ := nextUsable_eq_some turned
  refine ⟨?_, doubled ▸ inside, ?_⟩
  · have positive := Nat.two_pow_pos (count + 1)
    rw [doubled, shape, Nat.pow_succ 2 (count + 1)]
    omega
  · rw [← ahead, growUsable.eq_def usable.toNat, if_pos ⟨by omega, inside⟩, doubled]

theorem Normalizing.lt (count : Nat) (usable : UInt64)
    (normalizing : Normalizing requested count usable) : count < 64 := by
  have inside : usable.toNat < 2 ^ 64 := usable.toNat_lt
  have power : 2 ^ (count + 1) < 2 ^ 65 := by
    rw [normalizing.1] at inside
    omega
  have exponents := (Nat.pow_lt_pow_iff_right (Nat.lt_succ_self 1)).mp power
  omega

/-- The normalizing loop ends for every request, after less than 64 turns, where the loop
over numbers ends. -/
theorem normalize_returns (asked : 1 ≤ requested.toNat) :
    ∃ usable, (∀ fuel, 64 ≤ fuel → normalizeSpscUsableCapacity fuel requested = some usable) ∧
      usable.toNat = RxTech.normalizeSpscUsableCapacity requested.toNat ∧
      IsGreatest {usable | (∃ k, usable = 2 ^ k - 1) ∧ usable ≤ requested.toNat} usable.toNat := by
  obtain ⟨count, usable, returns, stopped, shape, inside, ahead⟩ :=
    PartialLoop.run_of_bound Normalizing.turn (⟨rfl, asked, rfl⟩ : Normalizing requested 0 1)
      Normalizing.lt
  have tight := nextUsable_eq_none stopped
  have greatest := allOnes_isGreatest (shape ▸ inside) (shape ▸ tight)
  rw [← shape] at greatest
  have numbers : usable.toNat = growUsable 1 requested.toNat := by
    rw [← ahead, growUsable.eq_def, if_neg (by omega)]
  by_cases single : requested ≤ 1
  · -- a request of one is answered without the loop
    have one : requested.toNat ≤ 1 := UInt64.le_iff_toNat_le.mp single
    have same : usable = 1 := by
      apply UInt64.toNat_inj.mp
      have : 1 ≤ usable.toNat := greatest.2 ⟨⟨1, rfl⟩, asked⟩
      exact Nat.le_antisymm (inside.trans one) this
    subst same
    refine ⟨1, fun fuel _ => if_pos single, ?_, greatest⟩
    exact (if_pos one).symm
  · have several : ¬ requested.toNat ≤ 1 := fun one => single (UInt64.le_iff_toNat_le.mpr one)
    refine ⟨usable, fun fuel enough => ?_, ?_, greatest⟩
    · exact (if_neg single).trans (returns fuel enough)
    · exact numbers.trans (if_neg several).symm

private theorem normalizingFits (requested : UInt64) : NormalizingFits requested :=
  fun _ _ _ grows => toNat_shift_or (le_lastToGrow_iff.mp grows)

end Normalize

/-! ## Rounding up -/

section Construct

variable {minCapacity : UInt64}

private theorem toNat_succ (fits : minCapacity.toNat < 2 ^ 63) :
    (minCapacity + 1).toNat = minCapacity.toNat + 1 := by
  have one : (1 : UInt64).toNat = 1 := rfl
  rw [UInt64.toNat_add, one]
  exact Nat.mod_eq_of_lt (by omega)

/-- After `count` turns there are `2 ^ (count + 1)` slots, and the loop over numbers would
end where it ends from here. -/
def Constructing (minCapacity : UInt64) (count : Nat) (cap : UInt64) : Prop :=
  cap.toNat = 2 ^ (count + 1) ∧ cap.toNat ≤ 2 ^ 63 ∧
    growSlots cap.toNat (minCapacity.toNat + 1) = growSlots 2 (minCapacity.toNat + 1)

theorem Constructing.lt (count : Nat) (cap : UInt64)
    (constructing : Constructing minCapacity count cap) : count < 64 := by
  obtain ⟨shape, inside, -⟩ := constructing
  have exponents : count + 1 ≤ 63 :=
    (Nat.pow_le_pow_iff_right (Nat.lt_succ_self 1)).mp (shape ▸ inside)
  omega

theorem Constructing.turn (fits : minCapacity.toNat < 2 ^ 63) (count : Nat) (cap next : UInt64)
    (constructing : Constructing minCapacity count cap)
    (turned : nextCap minCapacity cap = some next) :
    Constructing minCapacity (count + 1) next := by
  obtain ⟨shape, -, ahead⟩ := constructing
  obtain ⟨few, rfl⟩ := nextCap_eq_some turned
  rw [toNat_succ fits] at few
  have room : cap.toNat < 2 ^ 63 := by omega
  have exponents : count + 1 < 63 :=
    (Nat.pow_lt_pow_iff_right (Nat.lt_succ_self 1)).mp (shape ▸ room)
  have positive := Nat.two_pow_pos (count + 1)
  have doubled : (cap <<< 1).toNat = 2 ^ (count + 1 + 1) := by
    rw [toNat_shift room, shape, Nat.pow_succ 2 (count + 1), Nat.mul_comm]
  refine ⟨doubled, ?_, ?_⟩
  · rw [doubled]
    exact Nat.pow_le_pow_right (by decide) exponents
  · rw [← ahead, growSlots.eq_def cap.toNat, if_pos ⟨by omega, few⟩, toNat_shift room]

/-- The constructor's loop ends after less than 64 turns where the loop over numbers ends. -/
theorem construct_returns (fits : minCapacity.toNat < 2 ^ 63) :
    ∃ ring exponent, (∀ fuel, 64 ≤ fuel → RingSize.new fuel minCapacity = some ring) ∧
      ring.capacity_.toNat = growSlots 2 (minCapacity.toNat + 1) ∧
      ring.capacity_.toNat = 2 ^ (exponent + 1) ∧ ring.mask_ = ring.capacity_ - 1 := by
  obtain ⟨count, cap, returns, stopped, shape, -, ahead⟩ :=
    PartialLoop.run_of_bound (Constructing.turn fits)
      (⟨rfl, by decide, rfl⟩ : Constructing minCapacity 0 2) Constructing.lt
  have enough := nextCap_eq_none stopped
  rw [toNat_succ fits] at enough
  refine ⟨⟨cap, cap - 1⟩, count, fun fuel long => ?_, ?_, shape, rfl⟩
  · rw [RingSize.new, returns fuel long, Option.map_some]
  · rw [← ahead, growSlots.eq_def, if_neg (by omega)]

private theorem constructorFits (fits : minCapacity.toNat < 2 ^ 63) :
    ConstructorFits minCapacity := by
  refine ⟨toNat_succ fits, fun count cap reached few => toNat_shift ?_⟩
  rw [UInt64.lt_iff_toNat_lt, toNat_succ fits] at few
  omega

/-- Beyond `2 ^ 63` slots the only bit of `cap` is lost, and no shift brings it back. -/
theorem construct_never_returns (large : 2 ^ 63 ≤ minCapacity.toNat)
    (inside : minCapacity.toNat + 1 < 2 ^ 64) (fuel : Nat) :
    RingSize.new fuel minCapacity = none := by
  have one : (1 : UInt64).toNat = 1 := rfl
  have wanted : (minCapacity + 1).toNat = minCapacity.toNat + 1 := by
    rw [UInt64.toNat_add, one]
    exact Nat.mod_eq_of_lt inside
  have never : PartialLoop.run (nextCap minCapacity) fuel 2 = none := by
    refine @PartialLoop.run_eq_none _ _ _
      (fun cap => cap = 0 ∨ ∃ k ≤ 63, cap.toNat = 2 ^ k) ?_ ?_ (.inr ⟨1, by decide, rfl⟩) fuel
    · intro cap next bits turned
      obtain ⟨-, rfl⟩ := nextCap_eq_some turned
      obtain rfl | ⟨k, small, power⟩ := bits
      · exact .inl rfl
      · cases Nat.lt_or_eq_of_le small with
        | inl below =>
            have room : cap.toNat < 2 ^ 63 := power ▸ Nat.pow_lt_pow_right (by decide) below
            exact .inr ⟨k + 1, below, by rw [toNat_shift room, power, Nat.pow_succ, Nat.mul_comm]⟩
        | inr last =>
            have top : cap = 0x8000000000000000 := UInt64.toNat_inj.mp (by rw [power, last]; rfl)
            exact .inl (top ▸ rfl)
    · intro cap bits stopped
      have enough := nextCap_eq_none stopped
      rw [wanted] at enough
      obtain rfl | ⟨k, small, power⟩ := bits
      · exact absurd enough (by simp)
      · have most : 2 ^ k ≤ 2 ^ 63 := Nat.pow_le_pow_right (by decide) small
        omega
  rw [RingSize.new, never, Option.map_none]

/-- The constructor returns for less than `2 ^ 63` places; asked for all `2 ^ 64 - 1` it
adds one, gets zero and makes a ring for one element. -/
theorem construct_returns_iff :
    (∃ fuel, (RingSize.new fuel minCapacity).isSome = true) ↔
      minCapacity.toNat < 2 ^ 63 ∨ minCapacity = -1 := by
  constructor
  · rintro ⟨fuel, returned⟩
    by_contra neither
    obtain ⟨large, notLast⟩ := not_or.mp neither
    have inside : minCapacity.toNat < 2 ^ 64 := minCapacity.toNat_lt
    have apart : minCapacity.toNat ≠ 2 ^ 64 - 1 :=
      fun last => notLast (UInt64.toNat_inj.mp (last.trans rfl))
    rw [construct_never_returns (by omega) (by omega) fuel] at returned
    cases returned
  · rintro (fits | rfl)
    · obtain ⟨ring, -, returns, -⟩ := construct_returns fits
      exact ⟨64, by rw [returns 64 (Nat.le_refl 64)]; rfl⟩
    · exact ⟨1, rfl⟩

example : RingSize.new 64 (-1) = some { capacity_ := 2, mask_ := 1 } := by decide

end Construct

/-! ## Both together -/

/-- A ring constructed for a normalized capacity has one slot more than that capacity. -/
theorem construct_normalized {requested usable : UInt64} (asked : 1 ≤ requested.toNat)
    (fits : requested.toNat < 2 ^ 63)
    (normalized : usable.toNat = RxTech.normalizeSpscUsableCapacity requested.toNat) :
    ∃ ring exponent, (∀ fuel, 64 ≤ fuel → RingSize.new fuel usable = some ring) ∧
      ring.capacity = usable ∧ ring.capacity_.toNat = 2 ^ exponent ∧
      ring.capacity_ = ring.mask_ + 1 ∧ growSlots 2 (usable.toNat + 1) = usable.toNat + 1 := by
  obtain ⟨_, -, same, greatest⟩ := normalize_returns asked
  rw [same, ← normalized] at greatest
  obtain ⟨⟨k, shape⟩, inside⟩ := greatest.1
  have positive := Nat.two_pow_pos k
  have atLeast : 1 ≤ usable.toNat := greatest.2 ⟨⟨1, rfl⟩, asked⟩
  have exact : growSlots 2 (usable.toNat + 1) = usable.toNat + 1 :=
    growSlots_shape (by omega) (Nat.pow_one 2).symm (by omega : usable.toNat + 1 = 2 ^ k)
  obtain ⟨ring, exponent, returns, slots, power, mask⟩ := construct_returns (inside.trans_lt fits)
  rw [exact] at slots
  have succ := toNat_succ (inside.trans_lt fits)
  have isSucc : ring.capacity_ = usable + 1 := UInt64.toNat_inj.mp (slots.trans succ.symm)
  have capacity : ring.capacity = usable := by
    rw [RingSize.capacity, isSucc, UInt64.add_sub_cancel]
  have isUsable : ring.mask_ = usable := mask.trans capacity
  exact ⟨ring, exponent + 1, returns, capacity, power, isUsable ▸ isSucc, exact⟩

/-- Both loops end for every request of 32 bits, nothing wraps around on the way, and the
ring holds the greatest number of the form `2 ^ k - 1` that does not exceed the request. -/
theorem ring_capacity_of_request (capacity : UInt32) :
    ∃ usable ring exponent,
      (∀ fuel, 64 ≤ fuel →
        normalizeSpscUsableCapacity fuel (ringRequest capacity) = some usable) ∧
      NormalizingFits (ringRequest capacity) ∧
      IsGreatest {value | (∃ k, value = 2 ^ k - 1) ∧ value ≤ max 1 capacity.toNat} usable.toNat ∧
      (∀ fuel, 64 ≤ fuel → RingSize.new fuel usable = some ring) ∧
      ConstructorFits usable ∧
      ring.capacity = usable ∧
      ring.capacity_.toNat = 2 ^ exponent ∧ ring.capacity_.toNat = ring.mask_.toNat + 1 := by
  have value : (ringRequest capacity).toNat = max 1 capacity.toNat := by
    rw [ringRequest, UInt64.toNat_max, UInt32.toNat_toUInt64]
    rfl
  have word : capacity.toNat < 2 ^ 32 := capacity.toNat_lt
  have least : 1 ≤ (ringRequest capacity).toNat := value ▸ Nat.le_max_left 1 capacity.toNat
  have fits : (ringRequest capacity).toNat < 2 ^ 63 := by omega
  obtain ⟨usable, returns, numbers, greatest⟩ := normalize_returns least
  obtain ⟨ring, exponent, constructed, reported, power, succ, -⟩ :=
    construct_normalized least fits numbers
  have bounded : usable.toNat < 2 ^ 63 := greatest.1.2.trans_lt fits
  rw [value] at greatest
  refine ⟨usable, ring, exponent, returns, normalizingFits _, greatest, constructed,
    constructorFits bounded, reported, power, ?_⟩
  have mask : ring.mask_ = usable := by
    rw [← reported, RingSize.capacity, succ, UInt64.add_sub_cancel]
  rw [succ, mask, toNat_succ bounded]

end SizeT

/-! ## The rings of a configuration -/

section Normalized

variable {α : Type} {requested : Nat}

private theorem normalizeSpscUsableCapacity_isGreatest (asked : 1 ≤ requested)
    (fits : requested < 2 ^ 63) :
    IsGreatest {value | (∃ k, value = 2 ^ k - 1) ∧ value ≤ requested}
        (normalizeSpscUsableCapacity requested) ∧
      growSlots 2 (normalizeSpscUsableCapacity requested + 1) =
        normalizeSpscUsableCapacity requested + 1 := by
  have word : (UInt64.ofNat requested).toNat = requested :=
    UInt64.toNat_ofNat_of_lt' (Nat.lt_trans fits (by decide))
  obtain ⟨usable, -, numbers, greatest⟩ :=
    SizeT.normalize_returns (by rw [word]; exact asked : 1 ≤ (UInt64.ofNat requested).toNat)
  obtain ⟨-, -, -, -, -, -, exact⟩ :=
    SizeT.construct_normalized (by rw [word]; exact asked) (by rw [word]; exact fits) numbers
  rw [word] at numbers greatest
  rw [← numbers]
  exact ⟨greatest, exact⟩

theorem SpscRing.new_normalized_isGreatest (asked : 1 ≤ requested) (fits : requested < 2 ^ 63) :
    IsGreatest {value | (∃ k, value = 2 ^ k - 1) ∧ value ≤ requested}
      (SpscRing.new (normalizeSpscUsableCapacity requested) : SpscRing α).capacity := by
  obtain ⟨greatest, exact⟩ := normalizeSpscUsableCapacity_isGreatest asked fits
  rwa [SpscRing.new, BoundedQueue.empty_capacity, exact, Nat.add_sub_cancel]

theorem RingMemory.new_normalized_capacity [Inhabited α] (asked : 1 ≤ requested)
    (fits : requested < 2 ^ 63) :
    (RingMemory.new (normalizeSpscUsableCapacity requested) : RingMemory α).capacity =
      normalizeSpscUsableCapacity requested := by
  obtain ⟨-, exact⟩ := normalizeSpscUsableCapacity_isGreatest asked fits
  rw [RingMemory.capacity, RingMemory.new, exact, Nat.add_sub_cancel]

end Normalized

/-- `OwnerLoop::run` makes both rings as large as the configuration lets it. -/
theorem OutputPipeline.ofConfig_capacities (config : RxConfig)
    (output : config.outputRingCapacity < 2 ^ 32) (recycle : config.recycleRingCapacity < 2 ^ 32) :
    let pipeline := OutputPipeline.ofConfig config
    IsGreatest {value | (∃ k, value = 2 ^ k - 1) ∧ value ≤ max 1 config.outputRingCapacity}
        pipeline.outputRing.capacity ∧
      IsGreatest {value | (∃ k, value = 2 ^ k - 1) ∧ value ≤ max 1 config.recycleRingCapacity}
        pipeline.recycleRing.capacity := by
  constructor
  · exact SpscRing.new_normalized_isGreatest (Nat.le_max_left ..) (by omega)
  · exact SpscRing.new_normalized_isGreatest (Nat.le_max_left ..) (by omega)

end RxTech
