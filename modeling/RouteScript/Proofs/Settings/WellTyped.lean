import RouteScript.Proofs.Settings.Stability

/-!
The data that is a configuration.

`RunConfig.WellTyped` says of what kinds the modes and the settings have to be. The checks
come in a fixed order and the first fault ends them; each is decided by its part of the data
(`RunConfig.Decides`), and checks in a row are decided by all their parts together. So data
that is well typed passes them all and is converted (`RunConfig.ofData_of_wellTyped`), and any
other is refused before anything is converted (`RunConfig.ofData_refused`).

A refusal is a fault of the data as such (`RunConfig.Refused`), also where the fault is told
with the texts of unknown keys and one of those cannot be written.
-/

namespace RouteScript

namespace Value

/-- An integer or a float; a truth value is neither. -/
def isNumber : Value → Bool
  | int _ | float _ => true
  | _ => false

/-- An integer; a truth value is none. -/
def isInteger : Value → Bool
  | int _ => true
  | _ => false

def isBoolean : Value → Bool
  | bool _ => true
  | _ => false

def isMapping : Value → Bool
  | dict _ => true
  | _ => false

/-- The pairs of a mapping. Nothing else has any. -/
def pairs : Value → List (Value × Value)
  | dict entries => entries
  | _ => []

/-- What counts as false holds no pairs. -/
theorem pairs_of_not_truthy {v : Value} (untrue : ¬ v.truthy = true) : v.pairs = [] := by
  cases v with
  | dict entries => simpa [truthy, pairs] using untrue
  | _ => rfl

/-- Only a text is the same key as a text. -/
theorem beq_text_iff {k : Value} {s : String} : (k == .text s) = true ↔ k = .text s := by
  change Value.sameKey k (.text s) = true ↔ _
  cases k with
  | text t => simp [Value.sameKey]
  | _ =>
    simp only [Value.sameKey, reduceCtorEq, iff_false, Bool.not_eq_true]
    split <;> simp_all [Value.wholeNumber?]

instance (k : Value) (s : String) : Decidable (k = .text s) :=
  decidable_of_iff _ beq_text_iff

theorem toText_cases (v : Value) : (∃ s, v.toText = .ok s) ∨ v.toText = .error .textTooLong := by
  unfold Value.toText
  cases v.asText with
  | ok s => exact .inl ⟨s, rfl⟩
  | error e => exact .inr rfl

end Value

namespace RunConfig

/-- What is given under a name, if anything is, is of some kind. -/
def Given (kind : Value → Bool) (entries : List (Value × Value)) (name : String) : Prop :=
  ∀ v, Value.get? entries name = some v → kind v = true

theorem given_iff {kind : Value → Bool} {entries : List (Value × Value)} {name : String} :
    (Value.get? entries name).all kind = true ↔ Given kind entries name := by
  cases value : Value.get? entries name with
  | none => simp [Given, value]
  | some v => simp [Given, value]

instance (kind : Value → Bool) (entries : List (Value × Value)) (name : String) :
    Decidable (Given kind entries name) :=
  decidable_of_iff _ given_iff

/-- Every key is one of some names. -/
def KeysAmong (names : List String) (entries : List (Value × Value)) : Prop :=
  ∀ e ∈ entries, ∃ name ∈ names, e.1 = .text name

instance (names : List String) (entries : List (Value × Value)) :
    Decidable (KeysAmong names entries) :=
  inferInstanceAs (Decidable (∀ e ∈ entries, ∃ name ∈ names, e.1 = .text name))

/-- Settings of the transport that are of the right kinds. -/
structure WellTypedSettings (http : List (Value × Value)) : Prop where
  keys : KeysAmong ["timeout", "retries", "backoff", "headers", "follow-redirects"] http
  timeout : Given Value.isNumber http "timeout"
  backoff : Given Value.isNumber http "backoff"
  retries : Given Value.isInteger http "retries"
  headers : Given Value.isMapping http "headers"
  redirects : Given Value.isBoolean http "follow-redirects"

/-- Data that is a configuration: nothing at all, or a mapping that gives modes as truth values
and settings of the transport, if any, as a mapping of the right kinds. -/
inductive WellTyped : Value → Prop
  | nothing : WellTyped .null
  | mapping {entries : List (Value × Value)}
      (keys : KeysAmong ["silent", "quiet", "blocking", "formatted", "http"] entries)
      (modes : ∀ name ∈ ["silent", "quiet", "blocking", "formatted"],
        Given Value.isBoolean entries name)
      (http : ∀ v, Value.get? entries "http" = some v → v.truthy = true →
        v.isMapping = true ∧ WellTypedSettings v.pairs) : WellTyped (.dict entries)

/-- The settings of the transport are a mapping, unless what is given for them counts as false. -/
def GivesMapping (entries : List (Value × Value)) : Prop :=
  ∀ v, Value.get? entries "http" = some v → v.truthy = true → v.isMapping = true

theorem wellTypedSettings_iff {http : List (Value × Value)} :
    WellTypedSettings http ↔ KeysAmong settingNames http ∧ Given Value.isNumber http "timeout" ∧
      Given Value.isNumber http "backoff" ∧ Given Value.isInteger http "retries" ∧
      Given Value.isMapping http "headers" ∧ Given Value.isBoolean http "follow-redirects" := by
  constructor
  · rintro ⟨keys, timeout, backoff, retries, headers, redirects⟩
    exact ⟨keys, timeout, backoff, retries, headers, redirects⟩
  · rintro ⟨keys, timeout, backoff, retries, headers, redirects⟩
    exact ⟨keys, timeout, backoff, retries, headers, redirects⟩

theorem wellTypedSettings_nil : WellTypedSettings [] :=
  ⟨nofun, nofun, nofun, nofun, nofun, nofun⟩

theorem wellTyped_dict_iff {entries : List (Value × Value)} :
    WellTyped (.dict entries) ↔ KeysAmong (Modes.names ++ ["http"]) entries ∧
      (∀ name ∈ Modes.names, Given Value.isBoolean entries name) ∧ GivesMapping entries ∧
      WellTypedSettings (transportData (.dict entries)).pairs := by
  change _ ↔ _ ∧ _ ∧ _ ∧ WellTypedSettings ((Value.get? entries "http").getD .null).pairs
  constructor
  · rintro (_ | ⟨keys, modes, http⟩)
    refine ⟨keys, modes, fun v given holds => (http v given holds).1, ?_⟩
    cases value : Value.get? entries "http" with
    | none => exact wellTypedSettings_nil
    | some v =>
      by_cases holds : v.truthy = true
      · exact (http v value holds).2
      · rw [Option.getD_some, Value.pairs_of_not_truthy holds]
        exact wellTypedSettings_nil
  · rintro ⟨keys, modes, mapping, settings⟩
    refine .mapping keys modes fun v given holds => ⟨mapping v given holds, ?_⟩
    rw [given] at settings
    exact settings

instance (http : List (Value × Value)) : Decidable (WellTypedSettings http) :=
  decidable_of_iff' _ wellTypedSettings_iff

instance (entries : List (Value × Value)) : Decidable (GivesMapping entries) :=
  decidable_of_iff
      (((Value.get? entries "http").all fun v => !v.truthy || v.isMapping) = true) <| by
    unfold GivesMapping
    cases Value.get? entries "http" with
    | none => simp
    | some v => cases truth : v.truthy <;> simp [truth]

instance : DecidablePred WellTyped
  | .null => isTrue .nothing
  | .dict _ => decidable_of_iff' _ wellTyped_dict_iff
  | .bool _ | .int _ | .float _ | .text _ | .date .. | .list _ => isFalse nofun

/-- A truth value is no number, though it could be read as one. -/
example : ¬ WellTyped (.dict [(.text "http", .dict [(.text "retries", .bool true)])]) := by
  decide

/-! ### Checks -/

variable {α β : Type}

/-- Data is at fault, and not the size of a number in it. -/
def Refused (x : Except ConfigError α) : Prop := ∃ e, x = .error e ∧ e.kind = .value

theorem Refused.bind {x : Except ConfigError α} (refused : Refused x)
    (f : α → Except ConfigError β) : Refused (x >>= f) := by
  obtain ⟨e, rfl, kind⟩ := refused
  exact ⟨e, rfl, kind⟩

theorem Refused.behind {x : Except ConfigError α} {a : α} {f : α → Except ConfigError β}
    (passed : x = .ok a) (refused : Refused (f a)) : Refused (x >>= f) := by
  subst passed
  exact refused

/-- A check that passes exactly if something holds, and otherwise blames the data. -/
structure Decides (x : Except ConfigError Unit) (P : Prop) : Prop where
  passes : P → x = .ok ()
  refuses : ¬ P → Refused x

theorem Decides.andThen {x y : Except ConfigError Unit} {P Q : Prop} (first : Decides x P)
    (second : Decides y Q) : Decides (x >>= fun _ => y) (P ∧ Q) where
  passes both := by
    rw [first.passes both.1]
    exact second.passes both.2
  refuses not_both := by
    by_cases p : P
    · exact .behind (first.passes p) (second.refuses fun q => not_both ⟨p, q⟩)
    · exact (first.refuses p).bind _

/-- The check that what is given under a name is of some kind. -/
def checkKind (kind : Value → Bool) (fault : ConfigError) (entries : List (Value × Value))
    (name : String) : Except ConfigError Unit :=
  if (Value.get? entries name).all kind then .ok () else .error fault

theorem checkKind_decides (kind : Value → Bool) {fault : ConfigError} (blame : fault.kind = .value)
    (entries : List (Value × Value)) (name : String) :
    Decides (checkKind kind fault entries name) (Given kind entries name) where
  passes given := if_pos (given_iff.mpr given)
  refuses not_given := ⟨fault, if_neg (mt given_iff.mp not_given), blame⟩

theorem checkNumber_eq (entries : List (Value × Value)) (name : String) :
    checkNumber entries name = checkKind Value.isNumber (.notNumber name) entries name := by
  unfold checkNumber checkKind
  cases Value.get? entries name with
  | none => rfl
  | some v => cases v <;> rfl

theorem checkMode_eq (entries : List (Value × Value)) (name : String) :
    checkMode entries name = checkKind Value.isBoolean (.modeNotBoolean name) entries name := by
  unfold checkMode checkKind
  cases Value.get? entries name with
  | none => rfl
  | some v => cases v <;> rfl

theorem checkSettings_eq (http : List (Value × Value)) :
    checkSettings http = (do
      checkKind Value.isNumber (.notNumber "timeout") http "timeout"
      checkKind Value.isNumber (.notNumber "backoff") http "backoff"
      checkKind Value.isInteger .retriesNotInteger http "retries"
      checkKind Value.isMapping .headersNotMapping http "headers"
      checkKind Value.isBoolean .redirectsNotBoolean http "follow-redirects") := by
  unfold checkSettings
  rw [checkNumber_eq, checkNumber_eq]
  refine bind_congr fun _ => bind_congr fun _ => ?_
  unfold checkKind
  -- A setting of a wrong kind ends the checks; any other leaves the rest of them.
  cases Value.get? http "retries"
  case' some retries => cases retries <;> try rfl
  all_goals
    cases Value.get? http "headers"
    case' some headers => cases headers <;> try rfl
  all_goals
    cases Value.get? http "follow-redirects"
    case' some redirects => cases redirects
  all_goals rfl

/-- The check that all keys are among some names. -/
def checkKeys (names : List String) (fault : List String → ConfigError)
    (entries : List (Value × Value)) : Except ConfigError Unit := do
  let unknown ← unknownNames names entries
  if unknown ≠ [] then throw (fault unknown)

theorem checkKeys_decides (names : List String) {fault : List String → ConfigError}
    (blame : ∀ keys, (fault keys).kind = .value) (entries : List (Value × Value)) :
    Decides (checkKeys names fault entries) (KeysAmong names entries) := by
  let unknown := (entries.map (·.1)).filter fun k => !(names.map Value.text).any (k == ·)
  have unfolded : checkKeys names fault entries =
      (unknown.mapM Value.toText).mapError .conversion >>= fun texts =>
        if texts ≠ [] then throw (fault texts) else pure () := rfl
  have none_iff : unknown = [] ↔ KeysAmong names entries := by
    simp only [unknown, List.filter_eq_nil_iff, List.forall_mem_map, KeysAmong, List.any_map,
      Bool.not_eq_true', Bool.not_eq_false, List.any_eq_true, Function.comp_apply,
      Value.beq_text_iff]
  rw [unfolded]
  constructor
  · intro known
    rw [none_iff.mpr known]
    rfl
  · intro not_known
    rcases mapM_cases Value.toText_cases unknown with ⟨texts, written, length⟩ | written
    · have some_text : texts ≠ [] := by
        intro none
        rw [none] at length
        exact not_known (none_iff.mp (List.eq_nil_of_length_eq_zero length.symm))
      rw [written]
      exact ⟨fault texts, if_pos some_text, blame texts⟩
    · rw [written]
      exact ⟨_, rfl, rfl⟩

theorem checkSettings_decides (http : List (Value × Value)) :
    Decides (checkSettings http) (Given Value.isNumber http "timeout" ∧
      Given Value.isNumber http "backoff" ∧ Given Value.isInteger http "retries" ∧
      Given Value.isMapping http "headers" ∧ Given Value.isBoolean http "follow-redirects") := by
  rw [checkSettings_eq]
  exact (checkKind_decides _ rfl ..).andThen <| (checkKind_decides _ rfl ..).andThen <|
    (checkKind_decides _ rfl ..).andThen <| (checkKind_decides _ rfl ..).andThen <|
    checkKind_decides _ rfl ..

theorem checkModes_decides (names : List String) (entries : List (Value × Value)) :
    Decides (names.forM (checkMode entries))
      (∀ name ∈ names, Given Value.isBoolean entries name) := by
  induction names with
  | nil => exact ⟨fun _ => rfl, fun never => absurd nofun never⟩
  | cons name names ih =>
    rw [List.forall_mem_cons]
    change Decides (checkMode entries name >>= fun _ => names.forM (checkMode entries)) _
    rw [checkMode_eq]
    exact (checkKind_decides _ rfl ..).andThen ih

theorem httpEntries_eq {entries : List (Value × Value)} (mapping : GivesMapping entries) :
    httpEntries entries = .ok (transportData (.dict entries)).pairs := by
  change _ = Except.ok ((Value.get? entries "http").getD .null).pairs
  unfold httpEntries
  cases value : Value.get? entries "http" with
  | none => rfl
  | some v =>
    by_cases holds : v.truthy = true
    · have shape := mapping v value holds
      cases v with
      | dict http => exact if_pos holds
      | _ => cases shape
    · refine (if_neg holds).trans ?_
      rw [Option.getD_some, Value.pairs_of_not_truthy holds]

theorem httpEntries_refused {entries : List (Value × Value)} (other : ¬ GivesMapping entries) :
    Refused (httpEntries entries) := by
  unfold httpEntries
  cases value : Value.get? entries "http" with
  | none => exact absurd (fun v given => by rw [value] at given; cases given) other
  | some v =>
    by_cases holds : v.truthy = true
    · refine ⟨.httpNotMapping, (if_pos holds).trans ?_, rfl⟩
      cases v with
      | dict http => exact absurd (fun w given _ => by rw [value] at given; cases given; rfl) other
      | _ => rfl
    · refine absurd (fun w given holds' => ?_) other
      rw [value] at given
      cases given
      exact absurd holds' holds

theorem ofData_eq (entries : List (Value × Value)) :
    ofData (.dict entries) = (do
      checkKeys (Modes.names ++ ["http"]) .unknownKeys entries
      let http ← httpEntries entries
      checkKeys settingNames .unknownSettings http
      Modes.names.forM (checkMode entries)
      checkSettings http
      (make (.ofNames fun name => ((Value.get? entries name).map (·.truthy)).getD false)
        (.dict http)).mapError .conversion) := by
  simp only [ofData, checkKeys, bind_assoc]
  refine bind_congr fun unknown => ?_
  split
  · rfl
  · refine bind_congr (m := Except ConfigError) fun http => bind_congr fun unknown => ?_
    split <;> rfl

/-- Well-typed data passes every check. -/
theorem ofData_of_wellTyped {entries : List (Value × Value)} (right : WellTyped (.dict entries)) :
    ofData (.dict entries) =
      (make (.ofNames fun name => ((Value.get? entries name).map (·.truthy)).getD false)
        (.dict (transportData (.dict entries)).pairs)).mapError .conversion := by
  obtain ⟨keys, modes, mapping, settings⟩ := wellTyped_dict_iff.mp right
  obtain ⟨settingKeys, kinds⟩ := wellTypedSettings_iff.mp settings
  rw [ofData_eq, (checkKeys_decides _ (fun _ => rfl) _).passes keys, httpEntries_eq mapping]
  change (checkKeys _ _ _ >>= fun _ => _) = _
  rw [(checkKeys_decides _ (fun _ => rfl) _).passes settingKeys,
    (checkModes_decides _ _).passes modes, (checkSettings_decides _).passes kinds]
  rfl

/-- Any other data is refused. -/
theorem ofData_refused {data : Value} (wrong : ¬ WellTyped data) : Refused (ofData data) := by
  cases data with
  | null => exact absurd .nothing wrong
  | dict entries =>
    rw [ofData_eq]
    by_cases keys : KeysAmong (Modes.names ++ ["http"]) entries
    case neg => exact ((checkKeys_decides _ (fun _ => rfl) _).refuses keys).bind _
    refine .behind ((checkKeys_decides _ (fun _ => rfl) _).passes keys) ?_
    by_cases mapping : GivesMapping entries
    case neg => exact (httpEntries_refused mapping).bind _
    refine .behind (httpEntries_eq mapping) ?_
    by_cases settingKeys : KeysAmong settingNames (transportData (.dict entries)).pairs
    case neg => exact ((checkKeys_decides _ (fun _ => rfl) _).refuses settingKeys).bind _
    refine .behind ((checkKeys_decides _ (fun _ => rfl) _).passes settingKeys) ?_
    by_cases modes : ∀ name ∈ Modes.names, Given Value.isBoolean entries name
    case neg => exact ((checkModes_decides _ _).refuses modes).bind _
    refine .behind ((checkModes_decides _ _).passes modes) ?_
    refine ((checkSettings_decides _).refuses fun kinds => wrong ?_).bind _
    exact wellTyped_dict_iff.mpr
      ⟨keys, modes, mapping, wellTypedSettings_iff.mpr ⟨settingKeys, kinds⟩⟩
  | _ => exact ⟨.notMapping, rfl, rfl⟩

end RunConfig
end RouteScript
