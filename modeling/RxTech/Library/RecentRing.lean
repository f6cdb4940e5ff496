import Mathlib.Algebra.Ring.Nat
import Mathlib.Data.Fin.Basic
import Mathlib.Data.List.Basic
import Mathlib.Logic.Function.Basic

/-!
# The last `n` values of a sequence, in a ring

`n` slots and a cursor that goes around them. After any number of writes the
slots hold the last `n` values written, and the initial value where fewer than
`n` were.
-/

set_option autoImplicit false

namespace List

variable {α : Type}

/-- The last `n` values of a list. -/
def recent (n : Nat) (values : List α) : List α := values.drop (values.length - n)

theorem mem_recent_concat {n : Nat} {values : List α} {value last : α}
    (member : value ∈ recent n (values ++ [last])) : value ∈ recent n values ∨ value = last := by
  rw [recent, length_append, length_singleton, drop_append] at member
  rcases mem_append.mp member with old | new
  · refine .inl ?_
    rw [show values.length + 1 - n = values.length - n + (values.length + 1 - n -
      (values.length - n)) by omega, ← drop_drop] at old
    exact mem_of_mem_drop old
  · exact .inr (by simpa using mem_of_mem_drop new)

theorem recent_map {β : Type} (n : Nat) (f : α → β) (values : List α) :
    recent n (values.map f) = (recent n values).map f := by
  simp [recent, List.map_drop]

theorem mem_recent_of_getElem? {n position : Nat} {values : List α} {value : α}
    (found : values[position]? = some value) (near : values.length ≤ position + n) :
    value ∈ recent n values := by
  obtain ⟨inside, rfl⟩ := getElem?_eq_some_iff.mp found
  refine mem_drop_iff_getElem.mpr ⟨position - (values.length - n), by omega, ?_⟩
  congr 1
  omega

theorem mem_recent_concat_self {n : Nat} (positive : 0 < n) (values : List α) (last : α) :
    last ∈ recent n (values ++ [last]) :=
  mem_recent_of_getElem? getElem?_concat_length (by simp; omega)

/-- Two occurrences of a value have at least `n` others between them. -/
def Spaced (n : Nat) (values : List α) : Prop :=
  ∀ first second value, first < second → values[first]? = some value →
    values[second]? = some value → first + n < second

theorem spaced_nil (n : Nat) : Spaced n ([] : List α) := by
  intro first second value order found
  simp at found

theorem Spaced.concat {n : Nat} {values : List α} {value : α} (spaced : Spaced n values)
    (unknown : value ∉ recent n values) : Spaced n (values ++ [value]) := by
  intro first second other order foundFirst foundSecond
  have inside := (getElem?_eq_some_iff.mp foundSecond).1
  rw [length_append, length_singleton] at inside
  rw [getElem?_append_left (by omega)] at foundFirst
  rcases Nat.lt_or_eq_of_le (Nat.le_of_lt_succ inside) with earlier | last
  · rw [getElem?_append_left earlier] at foundSecond
    exact spaced first second other order foundFirst foundSecond
  · rw [last, getElem?_concat_length, Option.some.injEq] at foundSecond
    by_contra near
    exact unknown (foundSecond ▸ mem_recent_of_getElem? foundFirst (by omega))

end List

structure RecentRing (n : Nat) (α : Type) where
  slots : Fin n → α
  next : Fin n

namespace RecentRing

variable {n : Nat} {α : Type}

def map {β : Type} (f : α → β) (ring : RecentRing n α) : RecentRing n β :=
  ⟨fun slot => f (ring.slots slot), ring.next⟩

theorem map_map {β γ : Type} (f : α → β) (g : β → γ) (ring : RecentRing n α) :
    (ring.map f).map g = ring.map (g ∘ f) := rfl

variable [NeZero n]

def empty (n : Nat) [NeZero n] (initial : α) : RecentRing n α := ⟨fun _ => initial, 0⟩

/-- Overwrite the slot under the cursor and advance the cursor. -/
def push (ring : RecentRing n α) (value : α) : RecentRing n α where
  slots := Function.update ring.slots ring.next value
  next := ring.next + 1

@[simp] theorem push_slots (ring : RecentRing n α) (value : α) :
    (ring.push value).slots = Function.update ring.slots ring.next value := rfl

@[simp] theorem push_next (ring : RecentRing n α) (value : α) :
    (ring.push value).next = ring.next + 1 := rfl

theorem push_map {β : Type} (f : α → β) (ring : RecentRing n α) (value : α) :
    (ring.push value).map f = (ring.map f).push (f value) := by
  simp only [map, push, mk.injEq, and_true]
  exact Function.comp_update f ring.slots ring.next value

/-- The ring after writing `written`, in order, over `initial` slots. -/
structure Tracks (initial : α) (ring : RecentRing n α) (written : List α) : Prop where
  next : ring.next.val = written.length % n
  recent : ∀ position value, written[position]? = some value → written.length ≤ position + n →
    ring.slots (Fin.ofNat n position) = value
  untouched : ∀ slot : Fin n, written.length ≤ slot.val → ring.slots slot = initial

theorem tracks_empty (initial : α) : Tracks initial (empty n initial) [] where
  next := by simp [empty]
  recent := by simp
  untouched := by simp [empty]

/-- Two positions less than a whole turn apart use different slots. -/
private theorem slot_ne {position length : Nat} (earlier : position < length)
    (near : length < position + n) : Fin.ofNat n position ≠ Fin.ofNat n length := by
  intro same
  have congruent : length % n = position % n := by
    simpa [Fin.ofNat, Fin.ext_iff] using same.symm
  have multiple := Nat.sub_mod_eq_zero_of_mod_eq congruent
  rw [Nat.mod_eq_of_lt (by omega)] at multiple
  omega

theorem Tracks.push {initial value : α} {ring : RecentRing n α} {written : List α}
    (tracks : Tracks initial ring written) : Tracks initial (ring.push value) (written ++ [value]) := by
  have cursor : ring.next = Fin.ofNat n written.length := Fin.ext tracks.next
  refine ⟨?_, ?_, ?_⟩
  · simp [Fin.val_add, tracks.next, Nat.add_mod]
  · intro position stored found near
    rw [List.length_append, List.length_singleton] at near
    rcases Nat.lt_trichotomy position written.length with earlier | rfl | later
    · rw [List.getElem?_append_left earlier] at found
      rw [push_slots, cursor, Function.update_of_ne (slot_ne earlier (by omega))]
      exact tracks.recent position stored found (by omega)
    · simp only [List.getElem?_concat_length, Option.some.injEq] at found
      rw [push_slots, cursor, Function.update_self, found]
    · rw [List.getElem?_eq_none (by simp; omega)] at found
      cases found
  · intro slot beyond
    rw [List.length_append, List.length_singleton] at beyond
    have different : slot ≠ ring.next := by
      intro same
      have := tracks.next
      have := slot.isLt
      rw [← same, Nat.mod_eq_of_lt (by omega)] at *
      omega
    rw [push_slots, Function.update_of_ne different]
    exact tracks.untouched slot (by omega)

/-- A slot that was written holds one of the last `n` values. -/
private theorem position_of_slot {slot length : Nat} (inside : slot < n) (used : slot < length) :
    ∃ position, position < length ∧ length ≤ position + n ∧ position % n = slot := by
  have turns := Nat.div_add_mod (length - 1 - slot) n
  have part := Nat.mod_lt (length - 1 - slot) (Nat.pos_of_ne_zero (NeZero.ne n))
  refine ⟨slot + n * ((length - 1 - slot) / n), by omega, by omega, ?_⟩
  rw [Nat.add_mul_mod_self_left, Nat.mod_eq_of_lt inside]

/-- What the slots answer to a question about some entry. -/
theorem Tracks.exists_iff {initial : α} {ring : RecentRing n α} {written : List α}
    (tracks : Tracks initial ring written) (holds : α → Prop) :
    (∃ slot, holds (ring.slots slot)) ↔
      (∃ value ∈ written.recent n, holds value) ∨
        (written.length < n ∧ holds initial) := by
  constructor
  · rintro ⟨slot, satisfied⟩
    by_cases used : slot.val < written.length
    · obtain ⟨position, inside, near, same⟩ := position_of_slot slot.isLt used
      have here : Fin.ofNat n position = slot := Fin.ext same
      have stored := tracks.recent position _ (List.getElem?_eq_getElem inside) near
      refine .inl ⟨written[position], ?_, by rw [here] at stored; rwa [← stored]⟩
      refine List.mem_drop_iff_getElem.mpr ⟨position - (written.length - n), by omega, ?_⟩
      congr 1
      omega
    · have untouched := tracks.untouched slot (by omega)
      exact .inr ⟨by have := slot.isLt; omega, untouched ▸ satisfied⟩
  · rintro (⟨value, member, satisfied⟩ | ⟨short, satisfied⟩)
    · obtain ⟨back, inside, rfl⟩ := List.mem_drop_iff_getElem.mp member
      refine ⟨Fin.ofNat n (written.length - n + back), ?_⟩
      rw [tracks.recent _ _ (List.getElem?_eq_getElem (by omega)) (by omega)]
      exact satisfied
    · refine ⟨⟨written.length, short⟩, ?_⟩
      rw [tracks.untouched _ (Nat.le_refl _)]
      exact satisfied

end RecentRing
