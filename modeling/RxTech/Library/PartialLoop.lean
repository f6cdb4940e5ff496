import Mathlib.Data.Finset.Card
import Mathlib.Data.Finset.Range
import Mathlib.Data.Finset.Option

/-!
# Loops that may not end

A loop turns as long as its step has a next state. If it can only turn in finitely many
states, it stops within that many turns or never. An invariant that counts the turns
bounds them.
-/

set_option autoImplicit false

namespace PartialLoop

variable {α : Type}

/-- The state after `count` turns, if the loop has not stopped before. -/
def turns (step : α → Option α) : Nat → α → Option α
  | 0, state => some state
  | count + 1, state => (step state).bind (turns step count)

variable {step : α → Option α} {state : α}

theorem turns_add (first second : Nat) :
    turns step (first + second) state = (turns step first state).bind (turns step second) := by
  induction first generalizing state with
  | zero => rw [Nat.zero_add, turns, Option.bind_some]
  | succ first ih =>
      rw [Nat.add_right_comm, turns, turns, Option.bind_assoc]
      exact Option.bind_congr fun next _ => ih

theorem turns_isSome_of_le {fewer more : Nat} (le : fewer ≤ more)
    (busy : (turns step more state).isSome = true) : (turns step fewer state).isSome = true := by
  obtain ⟨rest, rfl⟩ := Nat.exists_eq_add_of_le le
  rw [turns_add] at busy
  exact Option.isSome_of_isSome_bind busy

theorem turns_next {count : Nat} {last : α} (reached : turns step count state = some last) :
    turns step (count + 1) state = step last := by
  rw [turns_add, reached, Option.bind_some, turns]
  cases step last with
  | none => rfl
  | some next => rfl

theorem turns_succ_eq_some {count : Nat} {last : α}
    (reached : turns step (count + 1) state = some last) :
    ∃ before, turns step count state = some before ∧ step before = some last := by
  obtain ⟨before, earlier⟩ := Option.isSome_iff_exists.mp
    (turns_isSome_of_le (Nat.le_succ count) (by rw [reached]; rfl))
  rw [turns_next earlier] at reached
  exact ⟨before, earlier, reached⟩

/-- A loop that comes back to where it was never stops. -/
theorem never_stops_of_return {period : Nat} (pos : 0 < period)
    (back : turns step period state = some state) (count : Nat) :
    (turns step count state).isSome = true := by
  induction count using Nat.strongRecOn with
  | ind count ih =>
      cases Nat.lt_or_ge count period with
      | inl short => exact turns_isSome_of_le (Nat.le_of_lt short) (by rw [back]; rfl)
      | inr long =>
          obtain ⟨rest, rfl⟩ := Nat.exists_eq_add_of_le long
          rw [turns_add, back, Option.bind_some]
          exact ih rest (by omega)

/-- More turns than there are states to turn in. -/
theorem never_stops {states : Finset α}
    (inside : ∀ count last, turns step count state = some last → (step last).isSome = true →
      last ∈ states)
    {count : Nat} (more : states.card < count) (busy : (turns step count state).isSome = true)
    (later : Nat) : (turns step later state).isSome = true := by
  have maps : Set.MapsTo (turns step · state) (Finset.range count : Set Nat)
      (states.map Function.Embedding.some : Set (Option α)) := by
    intro index member
    have early : index < count := by simpa using member
    have here := turns_isSome_of_le (Nat.le_of_lt early) busy
    have next := turns_isSome_of_le early busy
    obtain ⟨last, reached⟩ := Option.isSome_iff_exists.mp here
    rw [turns_next reached] at next
    simpa [reached] using inside index last reached next
  have crowded : (states.map Function.Embedding.some).card < (Finset.range count).card := by
    rw [Finset.card_map, Finset.card_range]
    exact more
  obtain ⟨first, isFirst, second, isSecond, different, same⟩ :=
    Finset.exists_ne_map_eq_of_card_lt_of_maps_to crowded maps
  -- the loop is in the same state after `early` and after `late` turns
  obtain ⟨early, late, before, inTime, again⟩ : ∃ early late, early < late ∧ late < count ∧
      turns step early state = turns step late state := by
    cases Nat.lt_or_gt_of_ne different with
    | inl before => exact ⟨first, second, before, Finset.mem_range.mp isSecond, same⟩
    | inr before => exact ⟨second, first, before, Finset.mem_range.mp isFirst, same.symm⟩
  obtain ⟨last, reached⟩ := Option.isSome_iff_exists.mp
    (turns_isSome_of_le (Nat.le_of_lt (Nat.lt_trans before inTime)) busy)
  obtain ⟨period, rfl⟩ := Nat.exists_eq_add_of_le (Nat.le_of_lt before)
  have back : turns step period last = some last := by
    rw [turns_add, reached, Option.bind_some] at again
    exact again.symm
  cases Nat.le_total later early with
  | inl soon =>
      exact turns_isSome_of_le soon (by rw [reached]; rfl)
  | inr beyond =>
      obtain ⟨rest, rfl⟩ := Nat.exists_eq_add_of_le beyond
      rw [turns_add, reached, Option.bind_some]
      exact never_stops_of_return (by omega) back rest

/-! ## Running a loop to its end -/

/-- The state in which the loop stops; `none` if it has not stopped when the fuel is spent. -/
def run (step : α → Option α) : Nat → α → Option α
  | 0, _ => none
  | fuel + 1, state =>
      match step state with
      | none => some state
      | some next => run step fuel next

theorem run_of_turns {count fuel : Nat} {last : α} (reached : turns step count state = some last)
    (stopped : step last = none) (enough : count < fuel) : run step fuel state = some last := by
  induction fuel generalizing count state with
  | zero => cases enough
  | succ fuel ih =>
      cases count with
      | zero =>
          cases reached
          simp only [run, stopped]
      | succ count =>
          obtain ⟨next, turned, later⟩ := Option.bind_eq_some_iff.mp reached
          simp only [run, turned]
          exact ih later (Nat.lt_of_succ_lt_succ enough)

/-- What every turn keeps holds in every state that the loop comes to. -/
theorem invariant_of_turn {Inv : Nat → α → Prop}
    (kept : ∀ count state next, Inv count state → step state = some next → Inv (count + 1) next)
    (start : Inv 0 state) {count : Nat} {last : α} (reached : turns step count state = some last) :
    Inv count last := by
  induction count generalizing last with
  | zero =>
      cases reached
      exact start
  | succ count ih =>
      obtain ⟨before, earlier, turned⟩ := turns_succ_eq_some reached
      exact kept count before last (ih earlier) turned

/-- A loop with an invariant that `bound` turns would break stops before. -/
theorem run_of_bound {Inv : Nat → α → Prop}
    (kept : ∀ count state next, Inv count state → step state = some next → Inv (count + 1) next)
    (start : Inv 0 state) {bound : Nat} (bounded : ∀ count state, Inv count state → count < bound) :
    ∃ count last, (∀ fuel, bound ≤ fuel → run step fuel state = some last) ∧ step last = none ∧
      Inv count last := by
  have stopsOrTurns (turn : Nat) : (∃ last, turns step turn state = some last) ∨
      ∃ count last, turns step count state = some last ∧ step last = none := by
    induction turn with
    | zero => exact .inl ⟨state, rfl⟩
    | succ turn ih =>
        cases ih with
        | inr stops => exact .inr stops
        | inl reaches =>
            obtain ⟨last, reached⟩ := reaches
            cases turned : step last with
            | none => exact .inr ⟨turn, last, reached, turned⟩
            | some next => exact .inl ⟨next, (turns_next reached).trans turned⟩
  cases stopsOrTurns bound with
  | inl turning =>
      obtain ⟨last, reached⟩ := turning
      have early := bounded bound last (invariant_of_turn kept start reached)
      exact absurd early (Nat.lt_irrefl bound)
  | inr stops =>
      obtain ⟨count, last, reached, stopped⟩ := stops
      have holds := invariant_of_turn kept start reached
      exact ⟨count, last,
        fun fuel enough => run_of_turns reached stopped ((bounded count last holds).trans_le enough),
        stopped, holds⟩

/-- A loop that keeps to states in which it turns never stops. -/
theorem run_eq_none {Inv : α → Prop}
    (kept : ∀ state next, Inv state → step state = some next → Inv next)
    (turning : ∀ state, Inv state → step state ≠ none) (start : Inv state) (fuel : Nat) :
    run step fuel state = none := by
  induction fuel generalizing state with
  | zero => rfl
  | succ fuel ih =>
      cases turned : step state with
      | none => exact absurd turned (turning state start)
      | some next =>
          simp only [run, turned]
          exact ih (kept state next start turned)

end PartialLoop
