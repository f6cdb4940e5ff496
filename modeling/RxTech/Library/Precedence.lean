import Mathlib.Data.List.Basic
import Mathlib.Logic.Function.Basic

/-!
# Assignments with precedence

Assignments to keys in order, some of them strong. A strong assignment replaces what the
key has, a weak one only if no strong one came before it. In the end a key has its last
strong assignment, or else its last weak one.
-/

set_option autoImplicit false

structure PrecedenceAssignment (κ ν : Type) where
  key : κ
  strong : Bool
  value : ν

namespace Precedence

variable {κ ν : Type} [DecidableEq κ]

/-- The last of the strong, or of the weak, assignments to a key. -/
def last (key : κ) (strong : Bool) (assignments : List (PrecedenceAssignment κ ν)) : Option ν :=
  (assignments.filter fun assignment =>
    assignment.key = key ∧ assignment.strong = strong).getLast?.map PrecedenceAssignment.value

/-- The assignment that counts. -/
def decisive (key : κ) (assignments : List (PrecedenceAssignment κ ν)) : Option ν :=
  (last key true assignments).or (last key false assignments)

@[simp] theorem last_nil (key : κ) (strong : Bool) :
    last key strong ([] : List (PrecedenceAssignment κ ν)) = none := rfl

theorem last_concat (key : κ) (strong : Bool) (assignments : List (PrecedenceAssignment κ ν))
    (assignment : PrecedenceAssignment κ ν) :
    last key strong (assignments ++ [assignment]) =
      if assignment.key = key ∧ assignment.strong = strong then some assignment.value
      else last key strong assignments := by
  rw [last, List.filter_append]
  split
  · rename_i counts
    simp [counts]
  · rename_i other
    simp [other, last]

/-- What an in-order reader keeps: the value of each key, and which keys were assigned
strongly. -/
structure Reader (κ ν : Type) where
  kept : κ → Option ν := fun _ => none
  strongKeys : List κ := []

namespace Reader

def assign (reader : Reader κ ν) (assignment : PrecedenceAssignment κ ν) : Reader κ ν :=
  if assignment.strong then
    { kept := Function.update reader.kept assignment.key (some assignment.value)
      strongKeys := assignment.key :: reader.strongKeys }
  else if assignment.key ∈ reader.strongKeys then reader
  else { reader with kept := Function.update reader.kept assignment.key (some assignment.value) }

/-- The reader after some assignments. -/
structure Tracks (reader : Reader κ ν) (assignments : List (PrecedenceAssignment κ ν)) : Prop where
  strong : ∀ key, key ∈ reader.strongKeys ↔ (last key true assignments).isSome = true
  kept : ∀ key, reader.kept key = decisive key assignments

theorem tracks_nil : Tracks ({} : Reader κ ν) [] where
  strong := by simp
  kept := by simp [decisive]

theorem Tracks.assign_strong {reader : Reader κ ν}
    {assignments : List (PrecedenceAssignment κ ν)} (tracks : reader.Tracks assignments)
    {assignment : PrecedenceAssignment κ ν} (strong : assignment.strong = true) :
    (reader.assign assignment).Tracks (assignments ++ [assignment]) := by
  have step : reader.assign assignment =
      { kept := Function.update reader.kept assignment.key (some assignment.value)
        strongKeys := assignment.key :: reader.strongKeys } := if_pos strong
  rw [step]
  constructor
  · intro key
    by_cases same : assignment.key = key
    · simp [last_concat, same, strong]
    · simp [last_concat, same, tracks.strong, Ne.symm same]
  · intro key
    by_cases same : assignment.key = key
    · subst same
      simp [decisive, last_concat, strong]
    · simp [decisive, last_concat, same, Function.update_of_ne (Ne.symm same), tracks.kept]

theorem Tracks.assign_weak {reader : Reader κ ν}
    {assignments : List (PrecedenceAssignment κ ν)} (tracks : reader.Tracks assignments)
    {assignment : PrecedenceAssignment κ ν} (weak : assignment.strong = false) :
    (reader.assign assignment).Tracks (assignments ++ [assignment]) := by
  by_cases taken : assignment.key ∈ reader.strongKeys
  · -- A strong assignment stands already: the weak one changes nothing.
    have step : reader.assign assignment = reader := by simp [assign, weak, taken]
    rw [step]
    refine ⟨fun key => by simp [last_concat, weak, tracks.strong], fun key => ?_⟩
    rw [tracks.kept, decisive, decisive, last_concat, last_concat]
    by_cases same : assignment.key = key
    · have found := (tracks.strong assignment.key).mp taken
      obtain ⟨value, is⟩ := Option.isSome_iff_exists.mp found
      subst same
      simp [weak, is]
    · simp [same]
  · have step : reader.assign assignment =
        { reader with
          kept := Function.update reader.kept assignment.key (some assignment.value) } := by
      simp [assign, weak, taken]
    rw [step]
    refine ⟨fun key => by simp [last_concat, weak, tracks.strong], fun key => ?_⟩
    by_cases same : assignment.key = key
    · have absent : last assignment.key true assignments = none := by
        rw [← Option.not_isSome_iff_eq_none]
        exact fun found => taken ((tracks.strong _).mpr found)
      subst same
      simp [decisive, last_concat, weak, absent]
    · simp [decisive, last_concat, same, Function.update_of_ne (Ne.symm same), tracks.kept]

theorem Tracks.assign {reader : Reader κ ν} {assignments : List (PrecedenceAssignment κ ν)}
    (tracks : reader.Tracks assignments) (assignment : PrecedenceAssignment κ ν) :
    (reader.assign assignment).Tracks (assignments ++ [assignment]) := by
  cases strong : assignment.strong with
  | true => exact tracks.assign_strong strong
  | false => exact tracks.assign_weak strong

theorem Tracks.foldl {reader : Reader κ ν} {assignments : List (PrecedenceAssignment κ ν)}
    (tracks : reader.Tracks assignments) (later : List (PrecedenceAssignment κ ν)) :
    (later.foldl Reader.assign reader).Tracks (assignments ++ later) := by
  induction later generalizing reader assignments with
  | nil => simpa using tracks
  | cons assignment later ih =>
      have step := ih (tracks.assign assignment)
      rwa [List.append_assoc, List.singleton_append] at step

/-- The last strong assignment of a key counts, or else the last weak one. -/
theorem foldl_kept (assignments : List (PrecedenceAssignment κ ν)) (key : κ) :
    (assignments.foldl Reader.assign {}).kept key = decisive key assignments := by
  have tracks := tracks_nil.foldl assignments
  rw [List.nil_append] at tracks
  exact tracks.kept key

end Reader

end Precedence
