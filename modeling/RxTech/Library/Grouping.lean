import RxTech.Library.DefaultMap
import Mathlib.Algebra.BigOperators.Group.List.Basic
import Mathlib.Algebra.Ring.Nat
import Mathlib.Data.Finset.Dedup
import Mathlib.Data.Finset.Lattice.Lemmas
import Mathlib.Data.List.Dedup
import Mathlib.Data.List.Sort
import Mathlib.Order.Basic

/-!
# Maps that group items

A map with a default value that every item of a list has changed at the item's key: each
key has what its own items make of the default. Gone through in the order of its keys, the
map is the list's groups in that order.
-/

set_option autoImplicit false

namespace DefaultMap

variable {κ ν α ω : Type} [DecidableEq κ]

/-- Change the value at the key of each item in turn. -/
def gather (fresh : ν) (keyOf : α → κ) (change : α → ν → ν) (items : List α)
    (map : AList fun _ : κ => ν) : AList fun _ : κ => ν :=
  items.foldl (fun map item => alter fresh (keyOf item) (change item) map) map

/-- The items with the key. -/
def group (keyOf : α → κ) (items : List α) (key : κ) : List α :=
  items.filter fun item => keyOf item = key

section Group

variable {keyOf : α → κ} {item : α} {items : List α} {key : κ}

theorem group_cons_eq (same : keyOf item = key) :
    group keyOf (item :: items) key = item :: group keyOf items key :=
  List.filter_cons_of_pos (decide_eq_true same)

theorem group_cons_ne (other : keyOf item ≠ key) :
    group keyOf (item :: items) key = group keyOf items key :=
  List.filter_cons_of_neg (mt of_decide_eq_true other)

theorem mem_group : item ∈ group keyOf items key ↔ item ∈ items ∧ keyOf item = key := by
  rw [group, List.mem_filter, decide_eq_true_eq]

theorem group_ne_nil_iff : group keyOf items key ≠ [] ↔ key ∈ items.map keyOf := by
  constructor
  · intro some
    obtain ⟨item, member⟩ := List.exists_mem_of_ne_nil _ some
    obtain ⟨inItems, same⟩ := mem_group.mp member
    exact List.mem_map.mpr ⟨item, inItems, same⟩
  · intro member none
    obtain ⟨item, inItems, same⟩ := List.mem_map.mp member
    have mine := mem_group.mpr ⟨inItems, same⟩
    rw [none] at mine
    cases mine

theorem nodup_group (distinct : items.Nodup) (key : κ) : (group keyOf items key).Nodup :=
  distinct.filter _

theorem group_map {β : Type} (keyOf : β → κ) (make : α → β) (items : List α) (key : κ) :
    group keyOf (items.map make) key = (group (fun item => keyOf (make item)) items key).map make :=
  List.filter_map

end Group

variable {fresh : ν} {keyOf : α → κ} {change : α → ν → ν} {items : List α}
  {map : AList fun _ : κ => ν} {key : κ}

theorem lookup_gather_some {value : ν} (present : map.lookup key = some value) :
    (gather fresh keyOf change items map).lookup key =
      some ((group keyOf items key).foldl (fun value item => change item value) value) := by
  induction items generalizing map value with
  | nil => exact present
  | cons item rest ih =>
      rw [gather, List.foldl_cons]
      by_cases same : keyOf item = key
      · rw [group_cons_eq same, List.foldl_cons]
        refine ih ?_
        rw [same, lookup_alter, present, Option.getD_some]
      · rw [group_cons_ne same]
        exact ih ((lookup_alter_ne (Ne.symm same)).trans present)

theorem lookup_gather_none (absent : map.lookup key = none) :
    (gather fresh keyOf change items map).lookup key =
      if group keyOf items key = [] then none
      else some ((group keyOf items key).foldl (fun value item => change item value) fresh) := by
  induction items generalizing map with
  | nil => exact absent
  | cons item rest ih =>
      rw [gather, List.foldl_cons]
      by_cases same : keyOf item = key
      · have present : (alter fresh (keyOf item) (change item) map).lookup key =
            some (change item fresh) := by
          rw [same, lookup_alter, absent, Option.getD_none]
        rw [group_cons_eq same, if_neg (List.cons_ne_nil _ _), List.foldl_cons]
        exact lookup_gather_some present
      · rw [group_cons_ne same]
        exact ih ((lookup_alter_ne (Ne.symm same)).trans absent)

theorem lookup_gather (fresh : ν) (change : α → ν → ν) (member : key ∈ items.map keyOf) :
    (gather fresh keyOf change items ∅).lookup key =
      some ((group keyOf items key).foldl (fun value item => change item value) fresh) := by
  rw [lookup_gather_none (AList.lookup_empty key), if_neg (group_ne_nil_iff.mpr member)]

theorem mem_keys_gather : key ∈ (gather fresh keyOf change items ∅).keys ↔
    key ∈ items.map keyOf := by
  rw [← AList.mem_keys, ← AList.lookup_isSome]
  constructor
  · intro present
    refine group_ne_nil_iff.mp fun none => ?_
    rw [lookup_gather_none (AList.lookup_empty key), if_pos none] at present
    cases present
  · intro member
    rw [lookup_gather fresh change member]
    rfl

/-- Entries of a kind are keys whose groups have made such a value. -/
theorem countP_gather (fresh : ν) (keyOf : α → κ) (change : α → ν → ν) (items : List α)
    (kind : ν → Bool) :
    (gather fresh keyOf change items ∅).entries.countP (fun entry => kind entry.2) =
      (items.map keyOf).dedup.countP fun key => kind
        ((group keyOf items key).foldl (fun value item => change item value) fresh) := by
  let made (key : κ) : ν :=
    (group keyOf items key).foldl (fun value item => change item value) fresh
  have read : ∀ entry ∈ (gather fresh keyOf change items ∅).entries,
      (kind entry.2 = true ↔ kind (made entry.1) = true) := by
    intro entry member
    have present := AList.mem_lookup_iff.mpr member
    have inItems := mem_keys_gather.mp (AList.mem_keys.mp (AList.lookup_isSome.mp
      (Option.isSome_iff_exists.mpr ⟨_, present⟩)))
    rw [lookup_gather fresh change inItems] at present
    rw [← Option.some.inj present]
  have perm : (gather fresh keyOf change items ∅).keys.Perm (items.map keyOf).dedup := by
    refine (List.perm_ext_iff_of_nodup (AList.keys_nodup _) (List.nodup_dedup _)).mpr fun key => ?_
    rw [mem_keys_gather, List.mem_dedup]
  have byKeys : (gather fresh keyOf change items ∅).entries.countP
      (fun entry => kind (made entry.1)) =
        (gather fresh keyOf change items ∅).keys.countP fun key => kind (made key) := by
    rw [AList.keys, List.keys, List.countP_map]
    rfl
  rw [List.countP_congr read, byKeys, perm.countP_eq]

theorem foldl_insert (keyOf : α → κ) (items : List α) (set : Finset κ) :
    items.foldl (fun set item => insert (keyOf item) set) set =
      (items.map keyOf).toFinset ∪ set := by
  induction items generalizing set with
  | nil => exact (Finset.empty_union set).symm
  | cons item rest ih =>
      rw [List.foldl_cons, ih, List.map_cons, List.toFinset_cons, Finset.union_insert,
        Finset.insert_union]

omit [DecidableEq κ] in
theorem foldl_last (keyOf : α → κ) (items : List α) (key : κ) :
    items.foldl (fun _ item => keyOf item) key = (items.getLast?.map keyOf).getD key := by
  induction items generalizing key with
  | nil => rfl
  | cons item rest ih =>
      rw [List.foldl_cons, ih, List.getLast?_cons]
      cases rest.getLast? <;> rfl

/-! ## In the order of the keys -/

section Order

variable [LinearOrder ω] {rank : κ → ω} {first second : List κ}

/-- The distinct keys, in the order of their ranks. -/
def orderedKeys (rank : κ → ω) (keys : List κ) : List κ :=
  keys.dedup.mergeSort fun first second => decide (rank first ≤ rank second)

theorem mem_orderedKeys : key ∈ orderedKeys rank first ↔ key ∈ first := by
  rw [orderedKeys, List.mem_mergeSort, List.mem_dedup]

theorem nodup_orderedKeys (rank : κ → ω) (keys : List κ) : (orderedKeys rank keys).Nodup :=
  (List.mergeSort_perm _ _).nodup_iff.mpr (List.nodup_dedup keys)

theorem orderedKeys_increasing (injective : Function.Injective rank) (keys : List κ) :
    (orderedKeys rank keys).Pairwise fun first second => rank first < rank second := by
  let le (first second : κ) : Bool := decide (rank first ≤ rank second)
  have transitive (first second third : κ) (before : le first second = true)
      (after : le second third = true) : le first third = true :=
    decide_eq_true (le_trans (of_decide_eq_true before) (of_decide_eq_true after))
  have total (first second : κ) : (le first second || le second first) = true :=
    (Bool.or_eq_true _ _).mpr
      ((le_total (rank first) (rank second)).imp decide_eq_true decide_eq_true)
  have sorted := List.pairwise_mergeSort transitive total keys.dedup
  refine (sorted.and (nodup_orderedKeys rank keys)).imp ?_
  rintro first second ⟨le, distinct⟩
  exact lt_of_le_of_ne (of_decide_eq_true le) fun same => distinct (injective same)

omit [DecidableEq κ] in
/-- Increasing keys are determined by their set. -/
theorem eq_of_increasing (increasing : first.Pairwise fun first second => rank first < rank second)
    (other : second.Pairwise fun first second => rank first < rank second)
    (same : ∀ key, key ∈ first ↔ key ∈ second) : first = second := by
  have distinct {keys : List κ}
      (sorted : keys.Pairwise fun first second => rank first < rank second) : keys.Nodup :=
    sorted.imp fun less same => absurd (congrArg rank same) (ne_of_lt less)
  have perm := (List.perm_ext_iff_of_nodup (distinct increasing) (distinct other)).mpr same
  exact perm.eq_of_pairwise (fun _ _ _ _ less greater => absurd less (lt_asymm greater))
    increasing other

/-- Only the set of the keys matters. -/
theorem orderedKeys_congr (injective : Function.Injective rank)
    (same : ∀ key, key ∈ first ↔ key ∈ second) :
    orderedKeys rank first = orderedKeys rank second := by
  refine eq_of_increasing (orderedKeys_increasing injective first)
    (orderedKeys_increasing injective second) fun key => ?_
  rw [mem_orderedKeys, mem_orderedKeys, same]

/-- The entries of a map, in the order of their keys. -/
def inOrder (rank : κ → ω) (map : AList fun _ : κ => ν) : List (κ × ν) :=
  (orderedKeys rank map.keys).filterMap fun key => (map.lookup key).map fun value => (key, value)

/-- The entries are what the groups have made of the default. -/
theorem inOrder_gather (fresh : ν) (keyOf : α → κ) (change : α → ν → ν) (items : List α)
    (injective : Function.Injective rank) :
    inOrder rank (gather fresh keyOf change items ∅) =
      (orderedKeys rank (items.map keyOf)).map fun key =>
        (key, (group keyOf items key).foldl (fun value item => change item value) fresh) := by
  rw [inOrder, orderedKeys_congr injective fun key => mem_keys_gather]
  refine Eq.trans (List.filterMap_congr fun key member => ?_)
    (congrFun List.filterMap_eq_map (orderedKeys rank (items.map keyOf)))
  rw [lookup_gather fresh change (mem_orderedKeys.mp member)]
  rfl

end Order

/-! ## Sums over the groups -/

/-- Each item is in one group. -/
theorem sum_groups (weigh : α → Nat) {keys : List κ} (distinct : keys.Nodup)
    (all : ∀ item ∈ items, keyOf item ∈ keys) :
    (keys.map fun key => ((group keyOf items key).map weigh).sum).sum = (items.map weigh).sum := by
  induction items with
  | nil =>
      have zero : (fun key => ((group keyOf [] key).map weigh).sum) = fun _ : κ => 0 := rfl
      rw [zero, List.map_const', List.sum_replicate_nat, Nat.mul_zero]
      rfl
  | cons item rest ih =>
      obtain ⟨here, others⟩ := List.forall_mem_cons.mp all
      obtain ⟨before, after, split⟩ := List.mem_iff_append.mp here
      have apart : ∀ key ∈ before ++ after, keyOf item ≠ key := by
        rw [split] at distinct
        rintro key member rfl
        exact (List.nodup_cons.mp (List.nodup_middle.mp distinct)).1 member
      obtain ⟨early, late⟩ := List.forall_mem_append.mp apart
      have same (part : List κ) (other : ∀ key ∈ part, keyOf item ≠ key) :
          part.map (fun key => ((group keyOf (item :: rest) key).map weigh).sum) =
            part.map fun key => ((group keyOf rest key).map weigh).sum :=
        List.map_congr_left fun key member => by rw [group_cons_ne (other key member)]
      have total := ih others
      rw [split, List.map_append, List.map_cons, List.sum_append, List.sum_cons] at total ⊢
      rw [same before early, same after late, group_cons_eq rfl, List.map_cons, List.sum_cons,
        List.map_cons, List.sum_cons, ← total]
      omega

theorem sum_orderedKeys [LinearOrder ω] (rank : κ → ω) (weigh : α → Nat) (keyOf : α → κ)
    (items : List α) :
    ((orderedKeys rank (items.map keyOf)).map fun key =>
      ((group keyOf items key).map weigh).sum).sum = (items.map weigh).sum :=
  sum_groups weigh (nodup_orderedKeys rank _) fun _ member =>
    mem_orderedKeys.mpr (List.mem_map_of_mem member)

theorem length_groups {keys : List κ} (distinct : keys.Nodup)
    (all : ∀ item ∈ items, keyOf item ∈ keys) :
    (keys.map fun key => (group keyOf items key).length).sum = items.length := by
  have ones (part : List α) : (part.map fun _ => 1).sum = part.length := by
    rw [List.map_const', List.sum_replicate_nat, Nat.mul_one]
  have total := sum_groups (fun _ => 1) distinct all
  rwa [ones, List.map_congr_left fun key _ => ones (group keyOf items key)] at total

omit [DecidableEq κ] in
/-- Entries of a kind that all weigh so much. -/
theorem countP_mul_le {weight : κ → Nat} {least : Nat} {kind : κ → Bool} {keys : List κ}
    (heavy : ∀ key ∈ keys, kind key = true → least ≤ weight key) :
    keys.countP kind * least ≤ (keys.map weight).sum := by
  induction keys with
  | nil => exact Nat.le_of_eq (Nat.zero_mul least)
  | cons key rest ih =>
      obtain ⟨here, others⟩ := List.forall_mem_cons.mp heavy
      have later := ih others
      rw [List.map_cons, List.sum_cons, List.countP_cons]
      by_cases holds : kind key = true
      · rw [if_pos holds, Nat.succ_mul, Nat.add_comm]
        exact Nat.add_le_add (here holds) later
      · rw [if_neg holds]
        exact Nat.le_trans later (Nat.le_add_left ..)

theorem length_orderedKeys [LinearOrder ω] (rank : κ → ω) (keys : List κ) :
    (orderedKeys rank keys).length = keys.dedup.length :=
  List.length_mergeSort _

end DefaultMap
