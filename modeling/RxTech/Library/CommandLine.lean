import Mathlib.Data.List.Basic

/-!
# Command lines

Reading the words of a command line into a state, up to the first word that cannot be read.
A word is an option by itself, an option that takes the word behind it, or neither.
-/

set_option autoImplicit false

namespace CommandLine

/-- What a word asks for at its place. -/
inductive Role (ω σ ε : Type) where
  | flag (apply : σ → σ)
  | valued (missing : ε) (apply : σ → ω → Except ε σ)
  | refused (error : ε)

/-- An option as it is used, with its value if it takes one. -/
inductive Use (ω : Type) where
  | flag (word : ω)
  | valued (word value : ω)
  deriving DecidableEq, Repr

variable {ω σ ε : Type}

def Use.words : Use ω → List ω
  | .flag word => [word]
  | .valued word value => [word, value]

/-- The words of several uses, one after the other. -/
def render (uses : List (Use ω)) : List ω := uses.flatMap Use.words

@[simp] theorem render_cons (use : Use ω) (uses : List (Use ω)) :
    render (use :: uses) = use.words ++ render uses := List.flatMap_cons

/-- The state after the words that could be read, and the error that ended the reading. -/
def read (role : ω → Role ω σ ε) : σ → List ω → σ × Option ε
  | state, [] => (state, none)
  | state, word :: words =>
      match role word with
      | .flag apply => read role (apply state) words
      | .refused error => (state, some error)
      | .valued missing apply =>
          match words with
          | [] => (state, some missing)
          | value :: words =>
              match apply state value with
              | .error error => (state, some error)
              | .ok state => read role state words

/-- The uses are taken, one after the other. -/
inductive Takes (role : ω → Role ω σ ε) : σ → List (Use ω) → σ → Prop where
  | done {state : σ} : Takes role state [] state
  | flag {state last : σ} {word : ω} {apply : σ → σ} {uses : List (Use ω)} :
      role word = .flag apply → Takes role (apply state) uses last →
      Takes role state (.flag word :: uses) last
  | valued {state next last : σ} {word value : ω} {missing : ε} {apply : σ → ω → Except ε σ}
      {uses : List (Use ω)} :
      role word = .valued missing apply → apply state value = .ok next →
      Takes role next uses last → Takes role state (.valued word value :: uses) last

/-- The first of the words cannot be read. -/
inductive Stops (role : ω → Role ω σ ε) (state : σ) : List ω → ε → Prop where
  | refused {word : ω} {words : List ω} {error : ε} :
      role word = .refused error → Stops role state (word :: words) error
  | missing {word : ω} {error : ε} {apply : σ → ω → Except ε σ} :
      role word = .valued error apply → Stops role state [word] error
  | invalid {word value : ω} {words : List ω} {error missing : ε} {apply : σ → ω → Except ε σ} :
      role word = .valued missing apply → apply state value = .error error →
      Stops role state (word :: value :: words) error

variable {role : ω → Role ω σ ε}

/-- What can be taken is read, and the reading goes on behind it. -/
theorem Takes.read {state last : σ} {uses : List (Use ω)} (takes : Takes role state uses last)
    (words : List ω) :
    CommandLine.read role state (render uses ++ words) = CommandLine.read role last words := by
  induction takes with
  | done => rfl
  | flag known _ ih =>
      simp only [render_cons, Use.words, List.cons_append, List.nil_append, CommandLine.read, known]
      exact ih
  | valued known valid _ ih =>
      simp only [render_cons, Use.words, List.cons_append, List.nil_append, CommandLine.read,
        known, valid]
      exact ih

theorem Stops.read {state : σ} {words : List ω} {error : ε}
    (stops : Stops role state words error) :
    CommandLine.read role state words = (state, some error) := by
  cases stops with
  | refused known => simp only [CommandLine.read, known]
  | missing known => simp only [CommandLine.read, known]
  | invalid known invalid => simp only [CommandLine.read, known, invalid]

/-- A reading takes as many uses as it can; then the words are at their end or cannot be read. -/
theorem exists_takes (role : ω → Role ω σ ε) (state : σ) (words : List ω) :
    ∃ uses rest last, words = render uses ++ rest ∧ Takes role state uses last ∧
      (rest = [] ∨ ∃ error, Stops role last rest error) := by
  fun_induction CommandLine.read role state words with
  | case1 state => exact ⟨[], [], state, rfl, .done, .inl rfl⟩
  | case2 state word words apply known ih =>
      obtain ⟨uses, rest, last, rfl, takes, ends⟩ := ih
      exact ⟨.flag word :: uses, rest, last, rfl, .flag known takes, ends⟩
  | case3 state word words error known =>
      exact ⟨[], word :: words, state, rfl, .done, .inr ⟨error, .refused known⟩⟩
  | case4 state word missing apply known =>
      exact ⟨[], [word], state, rfl, .done, .inr ⟨missing, .missing known⟩⟩
  | case5 state word missing apply known value words error invalid =>
      exact ⟨[], word :: value :: words, state, rfl, .done, .inr ⟨error, .invalid known invalid⟩⟩
  | case6 state word missing apply known value words next valid ih =>
      obtain ⟨uses, rest, last, rfl, takes, ends⟩ := ih
      exact ⟨.valued word value :: uses, rest, last, rfl, .valued known valid takes, ends⟩

/-- A command line is read to its end exactly if it consists of uses that can be taken. -/
theorem read_eq_none_iff {state last : σ} {words : List ω} :
    CommandLine.read role state words = (last, none) ↔
      ∃ uses, words = render uses ∧ Takes role state uses last := by
  constructor
  · intro done
    obtain ⟨uses, rest, next, rfl, takes, ends⟩ := exists_takes role state words
    rw [takes.read] at done
    rcases ends with rfl | ⟨error, stops⟩
    · cases done
      exact ⟨uses, List.append_nil _, takes⟩
    · rw [stops.read] at done
      cases done
  · rintro ⟨uses, rfl, takes⟩
    have read := takes.read []
    rw [List.append_nil] at read
    exact read

/-- The error is that of the first words that cannot be read; what stands before them is taken. -/
theorem read_eq_some_iff {state last : σ} {words : List ω} {error : ε} :
    CommandLine.read role state words = (last, some error) ↔
      ∃ uses rest, words = render uses ++ rest ∧ Takes role state uses last ∧
        Stops role last rest error := by
  constructor
  · intro failed
    obtain ⟨uses, rest, next, rfl, takes, ends⟩ := exists_takes role state words
    rw [takes.read] at failed
    rcases ends with rfl | ⟨found, stops⟩
    · cases failed
    · rw [stops.read] at failed
      cases failed
      exact ⟨uses, rest, rfl, takes, stops⟩
  · rintro ⟨uses, rest, rfl, takes, stops⟩
    rw [takes.read, stops.read]

end CommandLine
