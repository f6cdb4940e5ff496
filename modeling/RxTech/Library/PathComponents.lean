import Mathlib.Data.List.DropRight

/-!
# Components of paths

The parts of a list between its separators, without the empty ones.
-/

set_option autoImplicit false

namespace PathComponents

variable {α : Type} {separates : α → Bool}

def components (separates : α → Bool) (path : List α) : List (List α) :=
  (path.splitOnP separates).filter fun part => !part.isEmpty

@[simp] theorem components_nil : components separates [] = [] := rfl

theorem components_append_cons (before behind : List α) {separator : α}
    (separator_true : separates separator = true) :
    components separates (before ++ separator :: behind) =
      components separates before ++ components separates behind := by
  rw [components, List.splitOnP_append_cons before behind separator_true, List.filter_append]
  rfl

theorem components_concat (path : List α) {separator : α}
    (separator_true : separates separator = true) :
    components separates (path ++ [separator]) = components separates path := by
  rw [components_append_cons path [] separator_true, components_nil, List.append_nil]

/-- A list without separators is one component, or none if it is empty. -/
theorem components_part {part : List α} (plain : ∀ item ∈ part, separates item = false)
    (nonempty : part ≠ []) : components separates part = [part] := by
  rw [components, List.splitOnP_eq_singleton plain, List.filter_cons_of_pos, List.filter_nil]
  rw [List.isEmpty_eq_false_iff.mpr nonempty]
  rfl

/-- Separators at the end say nothing. -/
theorem components_rdropWhile (path : List α) :
    components separates (path.rdropWhile separates) = components separates path := by
  induction path using List.reverseRecOn with
  | nil => rfl
  | append_singleton path item ih =>
      cases separator : separates item with
      | true =>
          rw [List.rdropWhile_concat_pos _ _ _ separator, ih, components_concat path separator]
      | false => rw [List.rdropWhile_concat_neg _ _ _ (ne_true_of_eq_false separator)]

/-- What stands before the last part ends with a separator, if there is anything. -/
theorem front_cases (separates : α → Bool) (path : List α) :
    (path.rdropWhile fun item => !separates item) = [] ∨ ∃ start separator,
      (path.rdropWhile fun item => !separates item) = start ++ [separator] ∧
        separates separator = true := by
  have ends := List.rdropWhile_last_not (fun item => !separates item) path
  generalize (path.rdropWhile fun item => !separates item) = front at ends ⊢
  rcases List.eq_nil_or_concat' front with rfl | ⟨start, separator, rfl⟩
  · exact .inl rfl
  · exact .inr ⟨start, separator, rfl, by simpa using ends (by simp)⟩

theorem lastPart_plain (separates : α → Bool) (path : List α) :
    ∀ item ∈ path.rtakeWhile (fun item => !separates item), separates item = false := by
  intro item member
  have kept := List.mem_rtakeWhile_imp member
  simpa using kept

theorem lastPart_ne_nil {path : List α} (nonempty : path ≠ [])
    (ends : separates (path.getLast nonempty) = false) :
    (path.rtakeWhile fun item => !separates item) ≠ [] := by
  intro none
  have first := List.rtakeWhile_eq_nil_iff.mp none nonempty
  simp [ends] at first

/-- The components of a list that does not end with a separator: those of the part before its
last separator, and what follows that. -/
theorem components_split_last {path : List α} (nonempty : path ≠ [])
    (ends : separates (path.getLast nonempty) = false) :
    components separates path =
      components separates ((path.rdropWhile fun item => !separates item).dropLast) ++
        [path.rtakeWhile fun item => !separates item] := by
  have single := components_part (lastPart_plain separates path) (lastPart_ne_nil nonempty ends)
  have parted : (path.rdropWhile fun item => !separates item) ++
      (path.rtakeWhile fun item => !separates item) = path := List.rdropWhile_append_rtakeWhile
  rcases front_cases separates path with front | ⟨start, separator, front, separator_true⟩
  · rw [front, List.nil_append] at parted
    rw [front, List.dropLast_nil, components_nil, List.nil_append, ← single, parted]
  · rw [front] at parted
    rw [front, List.dropLast_concat, ← single,
      ← components_append_cons start _ separator_true]
    conv => lhs; rw [← parted]
    rw [List.append_assoc, List.singleton_append]

/-- A list behind another one, with a separator between them unless one is there already. -/
def join (separates : α → Bool) (separator : α) (base name : List α) : List α :=
  match base.getLast? with
  | none => name
  | some last => if separates last then base ++ name else base ++ separator :: name

theorem components_join {separator : α} (separator_true : separates separator = true)
    (base name : List α) : components separates (join separates separator base name) =
      components separates base ++ components separates name := by
  rcases List.eq_nil_or_concat' base with rfl | ⟨start, last, rfl⟩
  · rfl
  · rw [join, List.getLast?_concat]
    cases ends : separates last with
    | true =>
        dsimp only
        rw [if_pos ends, List.append_assoc, List.singleton_append,
          components_append_cons start name ends, components_concat start ends]
    | false =>
        dsimp only
        rw [if_neg (ne_true_of_eq_false ends)]
        exact components_append_cons _ name separator_true

/-! ## Where a path starts -/

/-- Whether a path starts with a separator. -/
def rooted (separates : α → Bool) (path : List α) : Bool := path.head?.any separates

/-- What stands before the last component, and the separator between them. -/
def parent (separates : α → Bool) (path : List α) : List α :=
  ((path.rdropWhile separates).rdropWhile fun item => !separates item).dropLast

/-- A separator at the front, no or one component, and only separators behind it. -/
def AtRoot (separates : α → Bool) (path : List α) : Prop :=
  ∃ separator name ends, path = separator :: (name ++ ends) ∧ separates separator = true ∧
    (∀ item ∈ name, separates item = false) ∧ ∀ item ∈ ends, separates item = true

theorem rooted_append {front : List α} (some : front ≠ []) (behind : List α) :
    rooted separates (front ++ behind) = rooted separates front := by
  cases front with
  | nil => exact absurd rfl some
  | cons item rest => rfl

theorem rooted_join {separator : α} {base : List α} (some : base ≠ []) (name : List α) :
    rooted separates (join separates separator base name) = rooted separates base := by
  obtain ⟨start, last, rfl⟩ := (List.eq_nil_or_concat' base).resolve_left some
  rw [join, List.getLast?_concat]
  dsimp only
  split
  · exact rooted_append some name
  · exact rooted_append some _

/-- A path is its parent, what ends there, and the separators at the end. -/
theorem exists_parent (separates : α → Bool) (path : List α) : ∃ between name ends,
    path = parent separates path ++ (between ++ (name ++ ends)) ∧ between.length ≤ 1 ∧
      (∀ item ∈ name, separates item = false) ∧ ∀ item ∈ ends, separates item = true := by
  have whole := @List.rdropWhile_append_rtakeWhile _ separates path
  have inner := @List.rdropWhile_append_rtakeWhile _ (fun item => !separates item)
    (path.rdropWhile separates)
  have last : ∀ item ∈ path.rtakeWhile separates, separates item = true :=
    fun item member => List.mem_rtakeWhile_imp member
  have plain := lastPart_plain separates (path.rdropWhile separates)
  rw [parent]
  generalize (path.rdropWhile separates).rdropWhile (fun item => !separates item) = front
    at inner
  rcases List.eq_nil_or_concat' front with rfl | ⟨start, separator, rfl⟩
  · refine ⟨[], _, _, ?_, Nat.zero_le 1, plain, last⟩
    rw [List.dropLast_nil, List.nil_append, List.nil_append]
    rw [List.nil_append] at inner
    exact whole.symm.trans (congrArg (· ++ _) inner.symm)
  · refine ⟨[separator], _, _, ?_, Nat.le_refl 1, plain, last⟩
    rw [List.dropLast_concat, ← List.append_assoc, ← List.append_assoc, inner]
    exact whole.symm

theorem rdropWhile_append {p : α → Bool} {behind : List α} (all : ∀ item ∈ behind, p item = true)
    (front : List α) : (front ++ behind).rdropWhile p = front.rdropWhile p := by
  rw [List.rdropWhile, List.reverse_append, List.dropWhile_append_of_pos, List.rdropWhile]
  exact fun item member => all item (List.mem_reverse.mp member)

/-- A path that starts with a separator has no parent exactly at the root. -/
theorem parent_eq_nil_iff {path : List α} (start : rooted separates path = true) :
    parent separates path = [] ↔ AtRoot separates path := by
  constructor
  · intro none
    obtain ⟨between, name, ends, split, short, plain, last⟩ := exists_parent separates path
    rw [none, List.nil_append] at split
    rw [split] at start
    match between, name, ends, short with
    | [separator], name, ends, _ => exact ⟨separator, name, ends, split, start, plain, last⟩
    | [], separator :: _, _, _ =>
        cases start.symm.trans (plain separator List.mem_cons_self)
    | [], [], separator :: ends, _ =>
        exact ⟨separator, [], ends, split, start, nofun, fun item member =>
          last item (List.mem_cons_of_mem _ member)⟩
    | [], [], [], _ => cases start
  · rintro ⟨separator, name, ends, rfl, separator_true, plain, last⟩
    have front : ((separator :: name).rdropWhile separates).rdropWhile
        (fun item => !separates item) = if name = [] then [] else [separator] := by
      rcases List.eq_nil_or_concat' name with rfl | ⟨before, final, rfl⟩
      · rw [List.rdropWhile_singleton, if_pos separator_true, if_pos rfl]
        rfl
      · have final_false : separates final = false := plain final (by simp)
        have all : ∀ item ∈ before ++ [final], (!separates item) = true := by
          intro item member
          rw [plain item member]
          rfl
        rw [← List.cons_append, List.rdropWhile_concat_neg _ _ _ (ne_true_of_eq_false final_false),
          List.cons_append, ← List.singleton_append, rdropWhile_append all,
          List.rdropWhile_singleton, if_neg (by simp [separator_true]), if_neg (by simp)]
    rw [parent, ← List.cons_append, rdropWhile_append last, front]
    split
    · rfl
    · rfl

theorem rooted_parent_iff {path : List α} :
    rooted separates (parent separates path) = true ↔
      rooted separates path = true ∧ ¬ AtRoot separates path := by
  obtain ⟨between, name, ends, split, -⟩ := exists_parent separates path
  by_cases none : parent separates path = []
  · rw [none]
    refine iff_of_false Bool.false_ne_true fun ⟨start, inside⟩ => ?_
    exact inside ((parent_eq_nil_iff start).mp none)
  · have same : rooted separates path = rooted separates (parent separates path) := by
      conv => lhs; rw [split]
      exact rooted_append none _
    rw [same]
    constructor
    · intro start
      exact ⟨start, fun atRoot => none ((parent_eq_nil_iff (same.trans start)).mpr atRoot)⟩
    · exact And.left

end PathComponents
