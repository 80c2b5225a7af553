import RouteScript.Settings.Transport

/-!
The configuration of a run: four modes and the settings of the transport.

`RunConfig.ofData` accepts exactly the well-typed configurations and names the
first fault of any other; nothing is converted before everything was checked.
Flags can switch modes on, never off.
-/

namespace RouteScript

/-- The modes of a run. -/
structure Modes where
  /-- Failed routes are not reported one by one. -/
  silent : Bool := false
  /-- Printed values are not shown. -/
  quiet : Bool := false
  /-- The first failed route ends the run. -/
  blocking : Bool := false
  /-- The outcome is reported as `true` or `false` only. -/
  formatted : Bool := false
  deriving DecidableEq, Repr

namespace Modes

/-- The modes in the order in which they are checked. -/
def names : List String := ["silent", "quiet", "blocking", "formatted"]

/-- The modes that hold of a name. -/
def ofNames (holds : String → Bool) : Modes :=
  ⟨holds "silent", holds "quiet", holds "blocking", holds "formatted"⟩

/-- The modes that are on in either. -/
def union (a b : Modes) : Modes :=
  ⟨a.silent || b.silent, a.quiet || b.quiet, a.blocking || b.blocking, a.formatted || b.formatted⟩

/-- The modes that flags switch on; a flag counts if its value counts as true. -/
def ofFlags (flags : List (String × Value)) : Modes :=
  ofNames fun name => ((flags.lookup name).map (·.truthy)).getD false

/-- With nothing but a verdict to report, failures and values are not shown. -/
def complete (m : Modes) : Modes :=
  if m.formatted then { m with silent := true, quiet := true } else m

end Modes

/-- The configuration of a run. -/
structure RunConfig where
  modes : Modes
  http : TransportSettings

/-- What is wrong with a configuration. -/
inductive ConfigError where
  | notMapping
  | unknownKeys (names : List String)
  | httpNotMapping
  | unknownSettings (names : List String)
  | modeNotBoolean (name : String)
  | notNumber (name : String)
  | retriesNotInteger
  | headersNotMapping
  | redirectsNotBoolean
  | conversion (e : ConversionError)
  deriving DecidableEq, Repr

namespace ConfigError

/-- The kind of failure. -/
def kind : ConfigError → FaultKind
  | conversion e => e.kind
  | _ => .value

/-- Names in order, for a message. -/
def sortedNames (names : List String) : String :=
  String.intercalate ", " (names.mergeSort fun a b => decide (a ≤ b))

/-- The wording of a failure. -/
def message : ConfigError → String
  | notMapping => "configuration must be a mapping"
  | unknownKeys names => "unknown configuration keys: " ++ sortedNames names
  | httpNotMapping => "'http' must be a mapping"
  | unknownSettings names => "unknown http settings: " ++ sortedNames names
  | modeNotBoolean name => s!"'{name}' must be true or false"
  | notNumber name => s!"http '{name}' must be a number"
  | retriesNotInteger => "http 'retries' must be an integer"
  | headersNotMapping => "http 'headers' must be a mapping"
  | redirectsNotBoolean => "http 'follow-redirects' must be true or false"
  | conversion e => e.message

end ConfigError

namespace RunConfig

/-- A configuration with settings from any data. -/
def make (modes : Modes) (http : Value) : Except ConversionError RunConfig :=
  (TransportSettings.normalize http).map fun settings => ⟨modes.complete, settings⟩

/-- The configuration of an empty file. -/
def default : RunConfig := ⟨{}, .default⟩

/-- The configuration with some modes switched on. -/
def withFlags (c : RunConfig) (flags : Modes) : Except ConversionError RunConfig :=
  make (c.modes.union flags) c.http.toValue

/-! ### Checks -/

/-- The names of the settings of the transport. -/
def settingNames : List String := ["timeout", "retries", "backoff", "headers", "follow-redirects"]

/-- The texts of the keys that are not among `names`. -/
def unknownNames (names : List String) (entries : List (Value × Value)) :
    Except ConfigError (List String) :=
  let known := names.map Value.text
  let unknown := (entries.map (·.1)).filter fun k => !known.any (k == ·)
  (unknown.mapM Value.toText).mapError .conversion

/-- A setting that is an integer or a float, if it is present. -/
def checkNumber (entries : List (Value × Value)) (name : String) : Except ConfigError Unit :=
  match Value.get? entries name with
  | none | some (.int _) | some (.float _) => .ok ()
  | some _ => .error (.notNumber name)

/-- The settings have the right kinds. -/
def checkSettings (entries : List (Value × Value)) : Except ConfigError Unit := do
  checkNumber entries "timeout"
  checkNumber entries "backoff"
  match Value.get? entries "retries" with
  | none | some (.int _) => pure ()
  | some _ => throw .retriesNotInteger
  match Value.get? entries "headers" with
  | none | some (.dict _) => pure ()
  | some _ => throw .headersNotMapping
  match Value.get? entries "follow-redirects" with
  | none | some (.bool _) => pure ()
  | some _ => throw .redirectsNotBoolean

/-- A mode that is a truth value, if it is present. -/
def checkMode (entries : List (Value × Value)) (name : String) : Except ConfigError Unit :=
  match Value.get? entries name with
  | none | some (.bool _) => .ok ()
  | some _ => .error (.modeNotBoolean name)

/-- The settings of the transport in a configuration; anything that counts as
false stands for none. -/
def httpEntries (entries : List (Value × Value)) : Except ConfigError (List (Value × Value)) :=
  match Value.get? entries "http" with
  | none => .ok []
  | some v =>
    if v.truthy then
      match v with
      | .dict http => .ok http
      | _ => .error .httpNotMapping
    else .ok []

/-- The configuration that data stands for. -/
def ofData : Value → Except ConfigError RunConfig
  | .null => .ok default
  | .dict entries => do
    let unknown ← unknownNames (Modes.names ++ ["http"]) entries
    if unknown ≠ [] then throw (.unknownKeys unknown)
    let http ← httpEntries entries
    let unknown ← unknownNames settingNames http
    if unknown ≠ [] then throw (.unknownSettings unknown)
    Modes.names.forM (checkMode entries)
    checkSettings http
    let on := fun name => ((Value.get? entries name).map (·.truthy)).getD false
    (make (.ofNames on) (.dict http)).mapError .conversion
  | _ => .error .notMapping

end RunConfig

end RouteScript
