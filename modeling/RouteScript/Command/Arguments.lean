import RouteScript.Settings.RunConfig

/-!
The words of a command line: options, then files.

An option switches a mode on or names the configuration file; options may be
repeated, and of several configuration files the last one counts. The first word
that does not start with a dash begins the files, and from there on every word is
a file. The first word that breaks this shape decides the error.
-/

namespace RouteScript

namespace Command

/-- What an option asks for. -/
inductive Choice where
  /-- These modes are switched on. -/
  | modes (m : Modes)
  /-- The next word is the path of the configuration file. -/
  | configuration
  deriving DecidableEq, Repr

/-- The options, each with a short and a long spelling. -/
def Choice.ofWord? : String → Option Choice
  | "-b" | "--blocking" => some (.modes { blocking := true })
  | "-f" | "--formated" => some (.modes { formatted := true })
  | "-s" | "--silent" => some (.modes { silent := true })
  | "-q" | "--quiet" => some (.modes { quiet := true })
  | "-c" | "--config" => some .configuration
  | _ => none

/-- Whether a word stands where an option stands. -/
def isOption (word : String) : Bool := word.startsWith "-"

/-- What the words ask for. -/
structure Arguments where
  modes : Modes := {}
  /-- The path of the configuration file. -/
  config : Option String := none
  files : List String := []
  deriving DecidableEq, Repr

/-- What is wrong with the words. -/
inductive ArgumentError where
  /-- No word follows an option that needs one. -/
  | missingConfiguration (option : String)
  | unknownOption (word : String)
  | noFiles
  deriving DecidableEq, Repr

/-- The wording of an error. -/
def ArgumentError.message : ArgumentError → String
  | missingConfiguration option => s!"{option} : Missing configuration file"
  | unknownOption word => s!"{word} : No such option"
  | noFiles => "No input files"

namespace Arguments

/-- Reads the words that follow the options in `found`. -/
def parseFrom (found : Arguments) : List String → Except ArgumentError Arguments
  | [] => .error .noFiles
  | word :: rest =>
    if isOption word then
      match Choice.ofWord? word, rest with
      | some (.modes m), rest => parseFrom { found with modes := found.modes.union m } rest
      | some .configuration, path :: rest => parseFrom { found with config := some path } rest
      | some .configuration, [] => .error (.missingConfiguration word)
      | none, _ => .error (.unknownOption word)
    else .ok { found with files := word :: rest }

section Words

variable (found : Arguments) {word : String} (rest : List String)

theorem parseFrom_modes (option : isOption word = true) {m : Modes}
    (asks : Choice.ofWord? word = some (.modes m)) :
    parseFrom found (word :: rest) =
      parseFrom { found with modes := found.modes.union m } rest := by
  rw [parseFrom.eq_def]
  simp only [option, asks, if_true]

theorem parseFrom_unknown (option : isOption word = true)
    (unknown : Choice.ofWord? word = none) :
    parseFrom found (word :: rest) = .error (.unknownOption word) := by
  rw [parseFrom.eq_def]
  simp only [option, unknown, if_true]

theorem parseFrom_files (file : isOption word = false) :
    parseFrom found (word :: rest) = .ok { found with files := word :: rest } := by
  rw [parseFrom.eq_def]
  simp only [file, Bool.false_eq_true, if_false]

end Words

/-- Reads the words of a command line. -/
def parse (words : List String) : Except ArgumentError Arguments := parseFrom {} words

end Arguments

end Command

end RouteScript
