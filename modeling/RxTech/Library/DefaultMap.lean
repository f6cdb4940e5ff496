import Mathlib.Data.List.AList

/-!
# Maps with a default value

A map whose values are changed in place. A key that is not there yet gets a default value,
which is then changed.
-/

set_option autoImplicit false

namespace DefaultMap

variable {κ ν : Type} [DecidableEq κ]

/-- Change the value at a key. -/
def alter (fresh : ν) (key : κ) (change : ν → ν) (map : AList fun _ : κ => ν) :
    AList fun _ : κ => ν :=
  map.insert key (change ((map.lookup key).getD fresh))

variable {fresh : ν} {key other : κ} {change : ν → ν} {map : AList fun _ : κ => ν}

@[simp] theorem lookup_alter : (alter fresh key change map).lookup key =
    some (change ((map.lookup key).getD fresh)) :=
  AList.lookup_insert _

theorem lookup_alter_ne (different : other ≠ key) :
    (alter fresh key change map).lookup other = map.lookup other :=
  AList.lookup_insert_ne different

/-- A relation of keys to values that the default value does not stand in grows by what the
change adds to it at its key. -/
theorem related_alter_iff (Related : ν → Prop) {added : Prop} (unrelated : ¬ Related fresh)
    (changed : ∀ value, Related (change value) ↔ added ∨ Related value) :
    (∃ value ∈ (alter fresh key change map).lookup other, Related value) ↔
      (other = key ∧ added) ∨ ∃ value ∈ map.lookup other, Related value := by
  by_cases same : other = key
  · subst same
    cases present : map.lookup other with
    | none => simp [present, changed, unrelated]
    | some value => simp [present, changed]
  · rw [lookup_alter_ne same]
    simp [same]

/-- Distinct keys with values of a kind are at most as many as the values of that kind. -/
theorem length_le_countP (kind : ν → Bool) {keys : List κ} (distinct : keys.Nodup)
    (found : ∀ key ∈ keys, ∃ value ∈ map.lookup key, kind value = true) :
    keys.length ≤ map.entries.countP fun entry => kind entry.2 := by
  have subset : keys ⊆ (map.entries.filter fun entry => kind entry.2).map Sigma.fst := by
    intro key member
    obtain ⟨value, present, isKind⟩ := found key member
    exact List.mem_map.mpr ⟨⟨key, value⟩,
      List.mem_filter.mpr ⟨AList.mem_lookup_iff.mp present, isKind⟩, rfl⟩
  have bounded := (List.subperm_of_subset distinct subset).length_le
  rwa [List.length_map, ← List.countP_eq_length_filter] at bounded

end DefaultMap
