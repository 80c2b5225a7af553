import RouteScript.Document.Load
import RouteScript.Files
import RouteScript.Settings.RunConfig

/-!
The configuration in a file.

Without a file there is the default configuration. Failures to read the file and
faults of its content are for the command line to report; a number out of range
is not (`LoadError.isReported`).
-/

namespace RouteScript

/-- Why there is no configuration. -/
inductive LoadError where
  | file (e : FileError)
  | document (e : Document.Fault)
  | config (e : ConfigError)
  deriving DecidableEq, Repr

namespace LoadError

/-- The wording of a failure. -/
def message : LoadError → String
  | file e => e.message
  | document e => e.message
  | config e => e.message

/-- Whether a failure is reported as an error of the configuration. -/
def isReported : LoadError → Bool
  | file _ => true
  | document e => e.kind = .value
  | config e => e.kind = .value

end LoadError

/-- Something that reads configurations, at a path or without one. -/
abbrev Loader := Option String → Except LoadError RunConfig

/-- The configuration in the file at a path, or the default one. -/
def RunConfig.load (files : Files) : Loader
  | none => .ok .default
  | some path => do
    let text ← (files.readText path).mapError .file
    let data ← (Document.load text).mapError .document
    (RunConfig.ofData data).mapError .config

end RouteScript
