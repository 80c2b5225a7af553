import RouteScript.Proofs.Decimal.FloatRange
import RouteScript.Proofs.Settings.WellTyped
import RouteScript.Settings.Load

/-!
The configurations that are accepted.

What is well typed still has to be converted. A time becomes the float nearest to it, if it is
not too large for one (`Value.toFloat_of_asFloat`), and headers become texts, if no integer in
them has more digits than may be written (`Value.toText_of_isShort`). Nothing else can fail,
and nothing is changed on the way (`TransportSettings.ReadFrom`, `RunConfig.Represents`).

A header that cannot be written is a fault of the data, a time that is too large is not: that is
the one failure of a configuration which is not reported (`RunConfig.ofData_fault_iff`). Where
there is neither, the configurations are exactly the well-typed data, and say what it says
(`RunConfig.ofData_accepts_iff`).
-/

namespace RouteScript

/-! ### Numbers -/

namespace Value

/-- The float nearest to a number. -/
def asFloat? : Value → Option Float
  | int n => some (.ofInt n)
  | float x => some x
  | _ => none

/-- An integer that is too large for a float. -/
def isOversized : Value → Bool
  | int n => FloatRange.firstOverflow ≤ n.natAbs
  | _ => false

theorem asFloat_of_isNumber {v : Value} (number : v.isNumber = true) :
    ∃ x, v.asFloat? = some x := by
  cases v with
  | int n => exact ⟨_, rfl⟩
  | float x => exact ⟨x, rfl⟩
  | _ => cases number

theorem eq_int_of_isInteger {v : Value} (integer : v.isInteger = true) : ∃ n, v = .int n := by
  cases v with
  | int n => exact ⟨n, rfl⟩
  | _ => cases integer

theorem eq_bool_of_isBoolean {v : Value} (boolean : v.isBoolean = true) : ∃ b, v = .bool b := by
  cases v with
  | bool b => exact ⟨b, rfl⟩
  | _ => cases boolean

theorem toFloat_of_asFloat {v : Value} {x : Float} (number : v.asFloat? = some x) :
    v.toFloat = if v.isOversized then .error .integerTooLarge else .ok x := by
  cases v with
  | int n =>
    cases number
    simp only [toFloat, isOversized, floatOfInt_eq, decide_eq_true_eq]
  | float y =>
    cases number
    rfl
  | _ => cases number

/-! ### Texts -/

/-- An integer is in a value, be it in a key of a mapping. -/
inductive Contains (n : Int) : Value → Prop
  | self : Contains n (.int n)
  | item {items : List Value} {v : Value} (mem : v ∈ items) (inside : Contains n v) :
      Contains n (.list items)
  | key {entries : List (Value × Value)} {e : Value × Value} (mem : e ∈ entries)
      (inside : Contains n e.1) : Contains n (.dict entries)
  | value {entries : List (Value × Value)} {e : Value × Value} (mem : e ∈ entries)
      (inside : Contains n e.2) : Contains n (.dict entries)

/-- No integer in a value has more digits than may be written. -/
def IsShort (v : Value) : Prop :=
  ∀ n, v.Contains n → (Nat.toDigits 10 n.natAbs).length ≤ Decimal.digitLimit

theorem intText_of_isShort {n : Int}
    (short : (Nat.toDigits 10 n.natAbs).length ≤ Decimal.digitLimit) :
    ∃ s, intText n = .ok s := by
  have some_digit : 0 < Decimal.digitLimit := by decide
  unfold intText
  -- With a limit that is no numeral nobody tries to work out the power.
  generalize Decimal.digitLimit = limit at *
  exact ⟨_, if_pos ((Nat.length_toDigits_le_iff (by decide) some_digit).mp short)⟩

mutual

theorem shown_of_isShort (v : Value) (short : v.IsShort) : ∃ s, v.shown = .ok s := by
  cases v with
  | int n => exact intText_of_isShort (short n .self)
  | list items =>
    obtain ⟨texts, shown⟩ := shownItems_of_isShort items fun v mem n inside =>
      short n (.item mem inside)
    exact ⟨_, by rw [Value.shown, shown]; rfl⟩
  | dict entries =>
    obtain ⟨texts, shown⟩ := shownEntries_of_isShort entries fun e mem =>
      ⟨fun n inside => short n (.key mem inside), fun n inside => short n (.value mem inside)⟩
    exact ⟨_, by rw [Value.shown, shown]; rfl⟩
  | _ => exact ⟨_, rfl⟩

theorem shownItems_of_isShort (items : List Value) (short : ∀ v ∈ items, v.IsShort) :
    ∃ texts, shownItems items = .ok texts := by
  cases items with
  | nil => exact ⟨[], rfl⟩
  | cons v rest =>
    obtain ⟨first, shown⟩ := shown_of_isShort v (short v List.mem_cons_self)
    obtain ⟨others, shown'⟩ := shownItems_of_isShort rest fun v mem =>
      short v (List.mem_cons_of_mem _ mem)
    exact ⟨_, by rw [shownItems, shown, shown']; rfl⟩

theorem shownEntries_of_isShort (entries : List (Value × Value))
    (short : ∀ e ∈ entries, e.1.IsShort ∧ e.2.IsShort) :
    ∃ texts, shownEntries entries = .ok texts := by
  cases entries with
  | nil => exact ⟨[], rfl⟩
  | cons e rest =>
    obtain ⟨k, v⟩ := e
    obtain ⟨key, value⟩ := short (k, v) List.mem_cons_self
    obtain ⟨first, shown⟩ := shown_of_isShort k key
    obtain ⟨second, shown'⟩ := shown_of_isShort v value
    obtain ⟨others, shown''⟩ := shownEntries_of_isShort rest fun e mem =>
      short e (List.mem_cons_of_mem _ mem)
    exact ⟨_, by rw [shownEntries, shown, shown', shown'']; rfl⟩

end

theorem toText_of_isShort {v : Value} (short : v.IsShort) : ∃ s, v.toText = .ok s := by
  have written : ∃ s, v.asText = .ok s := by
    cases v with
    | text s => exact ⟨s, rfl⟩
    | date y m d => exact ⟨_, rfl⟩
    | _ => exact shown_of_isShort _ short
  obtain ⟨s, written⟩ := written
  exact ⟨s, by rw [toText, written]; rfl⟩

end Value

/-! ### Settings -/

namespace TransportSettings

open RunConfig (Given WellTypedSettings)

/-- The texts of the name and of the value of a header. -/
def textsOf (e : Value × Value) : Except ConversionError (String × String) := do
  return (← e.1.toText, ← e.2.toText)

theorem foldlM_textsOf (entries : List (Value × Value)) (before : List (String × String)) :
    entries.foldlM (fun headers (k, v) => do return Assoc.set (← k.toText) (← v.toText) headers)
        before =
      (entries.mapM textsOf).map
        fun texts => texts.foldl (fun headers (k, v) => Assoc.set k v headers) before := by
  induction entries generalizing before with
  | nil => rfl
  | cons e entries ih =>
    obtain ⟨k, v⟩ := e
    rw [List.foldlM_cons, List.mapM_cons, textsOf]
    dsimp only
    cases k.toText with
    | error fault => rfl
    | ok name =>
      cases v.toText with
      | error fault => rfl
      | ok text =>
        refine (ih (Assoc.set name text before)).trans ?_
        change _ = Except.map _ (entries.mapM textsOf >>= fun texts => .ok ((name, text) :: texts))
        cases entries.mapM textsOf <;> rfl

/-- The headers are the texts of all pairs, a later value of a name in place of an earlier one. -/
theorem headersOf_eq (entries : List (Value × Value)) :
    headersOf entries = (entries.mapM textsOf).map Assoc.ofPairs :=
  foldlM_textsOf entries []

theorem textsOf_cases (e : Value × Value) :
    (∃ texts, textsOf e = .ok texts) ∨ textsOf e = .error .textTooLong := by
  rw [textsOf]
  rcases Value.toText_cases e.1 with ⟨k, key⟩ | key
  · rcases Value.toText_cases e.2 with ⟨v, value⟩ | value
    · rw [key, value]
      exact .inl ⟨(k, v), rfl⟩
    · rw [key, value]
      exact .inr rfl
  · rw [key]
    exact .inr rfl

theorem textsOf_of_isShort {e : Value × Value} (short : e.1.IsShort ∧ e.2.IsShort) :
    ∃ texts, textsOf e = .ok texts := by
  obtain ⟨k, key⟩ := Value.toText_of_isShort short.1
  obtain ⟨v, value⟩ := Value.toText_of_isShort short.2
  rw [textsOf, key, value]
  exact ⟨(k, v), rfl⟩

/-- Settings that say what data says, or the default where it says nothing. -/
structure ReadFrom (http : List (Value × Value)) (settings : TransportSettings) : Prop where
  timeout : ((Value.get? http "timeout").getD (.float 5.0)).asFloat? = some settings.timeout
  retries : (Value.get? http "retries").getD (.int 0) = .int settings.retries
  backoff : ((Value.get? http "backoff").getD (.float 0.2)).asFloat? = some settings.backoff
  headers : ∃ texts, ((Value.get? http "headers").getD (.dict [])).pairs.mapM textsOf = .ok texts ∧
    settings.headers = Assoc.ofPairs texts
  redirects : (Value.get? http "follow-redirects").getD (.bool false) =
    .bool settings.followRedirects

/-- A time is given as an integer that is too large for a float. -/
def Oversized (http : List (Value × Value)) : Prop :=
  ∃ name ∈ ["timeout", "backoff"], ∃ n : Int, Value.get? http name = some (.int n) ∧
    FloatRange.firstOverflow ≤ n.natAbs

/-- What is given is of its kind, and so is the default. -/
theorem getD_of_given {kind : Value → Bool} {http : List (Value × Value)} {name : String}
    {d : Value} (given : Given kind http name) (default : kind d = true) :
    kind ((Value.get? http name).getD d) = true := by
  cases value : Value.get? http name with
  | none => exact default
  | some v => exact given v value

theorem isOversized_getD {http : List (Value × Value)} {name : String} {x : Float} :
    ((Value.get? http name).getD (.float x)).isOversized = true ↔
      ∃ n : Int, Value.get? http name = some (.int n) ∧ FloatRange.firstOverflow ≤ n.natAbs := by
  cases Value.get? http name with
  | none => simp [Value.isOversized]
  | some v => cases v <;> simp [Value.isOversized]

theorem oversized_iff {http : List (Value × Value)} : Oversized http ↔
    ((Value.get? http "timeout").getD (.float defaultTimeout)).isOversized = true ∨
      ((Value.get? http "backoff").getD (.float defaultBackoff)).isOversized = true := by
  simp only [Oversized, List.mem_cons, List.not_mem_nil, or_false, exists_eq_or_imp,
    exists_eq_left, isOversized_getD]

/-- Integers below a bound that is a float are not too large. -/
theorem not_oversized_of_small {http : List (Value × Value)} {bound : Nat}
    (fits : bound < FloatRange.firstOverflow)
    (small : ∀ name ∈ ["timeout", "backoff"], ∀ n : Int,
      Value.get? http name = some (.int n) → n.natAbs < bound) : ¬ Oversized http := by
  rintro ⟨name, mem, n, given, large⟩
  exact absurd large (Nat.not_le.mpr (Nat.lt_trans (small name mem n given) fits))

theorem entriesOrEmpty_of_given {http : List (Value × Value)}
    (given : Given Value.isMapping http "headers") :
    ((Value.get? http "headers").getD .null).entriesOrEmpty =
      .ok ((Value.get? http "headers").getD (.dict [])).pairs := by
  cases value : Value.get? http "headers" with
  | none => rfl
  | some v =>
    have mapping := given v value
    cases v with
    | dict entries => cases entries <;> rfl
    | _ => cases mapping

/-- Settings of the right kinds are read, but for times that are too large and headers that
cannot be written. -/
theorem ofEntries_of_wellTyped {http : List (Value × Value)} (right : WellTypedSettings http) :
    Oversized http ∧ ofEntries http = .error .integerTooLarge ∨
      ¬ Oversized http ∧ ((∃ settings, ofEntries http = .ok settings ∧ ReadFrom http settings) ∨
        ∃ e, ((Value.get? http "headers").getD (.dict [])).pairs.mapM textsOf = .error e ∧
          ofEntries http = .error e) := by
  obtain ⟨x, timeout⟩ := Value.asFloat_of_isNumber (getD_of_given right.timeout
    (d := .float defaultTimeout) rfl)
  obtain ⟨y, backoff⟩ := Value.asFloat_of_isNumber (getD_of_given right.backoff
    (d := .float defaultBackoff) rfl)
  obtain ⟨n, retries⟩ := Value.eq_int_of_isInteger (getD_of_given right.retries
    (d := .int defaultRetries) rfl)
  obtain ⟨b, redirects⟩ := Value.eq_bool_of_isBoolean (getD_of_given right.redirects
    (d := .bool false) rfl)
  rw [oversized_iff, ofEntries, Value.toFloat_of_asFloat timeout, Value.toFloat_of_asFloat backoff,
    retries, entriesOrEmpty_of_given right.headers, redirects]
  by_cases long : ((Value.get? http "timeout").getD (.float defaultTimeout)).isOversized = true
  · exact .inl ⟨.inl long, by rw [if_pos long]; rfl⟩
  · rw [if_neg long]
    by_cases late : ((Value.get? http "backoff").getD (.float defaultBackoff)).isOversized = true
    · exact .inl ⟨.inr late, by rw [if_pos late]; rfl⟩
    · refine .inr ⟨not_or.mpr ⟨long, late⟩, ?_⟩
      rw [if_neg late]
      change (∃ settings, (headersOf _ >>= fun headers => _) = _ ∧ _) ∨
        ∃ e, _ ∧ (headersOf _ >>= fun headers => _) = _
      rw [headersOf_eq]
      cases texts : ((Value.get? http "headers").getD (.dict [])).pairs.mapM textsOf with
      | error e => exact .inr ⟨e, rfl, rfl⟩
      | ok texts' => exact .inl ⟨⟨x, n, y, Assoc.ofPairs texts', b⟩, rfl,
          ⟨timeout, retries, backoff, ⟨texts', texts, rfl⟩, redirects⟩⟩

end TransportSettings

/-! ### Configurations -/

/-- A mere verdict silences everything else and changes no other mode. -/
theorem Modes.complete_eq (m : Modes) :
    m.complete = ⟨m.silent || m.formatted, m.quiet || m.formatted, m.blocking, m.formatted⟩ := by
  obtain ⟨silent, quiet, blocking, formatted⟩ := m
  cases formatted <;> simp [Modes.complete]

namespace RunConfig

open TransportSettings (Oversized ReadFrom ofEntries ofEntries_of_wellTyped textsOf)

/-- A mode is given as on. -/
def On (data : Value) (name : String) : Prop := Value.get? data.pairs name = some (.bool true)

/-- A configuration that says what data says, with all that a mere verdict implies. -/
structure Represents (data : Value) (config : RunConfig) : Prop where
  silent : config.modes.silent = true ↔ On data "silent" ∨ On data "formatted"
  quiet : config.modes.quiet = true ↔ On data "quiet" ∨ On data "formatted"
  blocking : config.modes.blocking = true ↔ On data "blocking"
  formatted : config.modes.formatted = true ↔ On data "formatted"
  http : ReadFrom (transportData data).pairs config.http

/-- The headers as given. -/
def headersData (data : Value) : List (Value × Value) :=
  ((Value.get? (transportData data).pairs "headers").getD (.dict [])).pairs

theorem truthy_iff_of_given {entries : List (Value × Value)} {name : String}
    (given : Given Value.isBoolean entries name) :
    ((Value.get? entries name).map (·.truthy)).getD false = true ↔ On (.dict entries) name := by
  change _ ↔ Value.get? entries name = some (.bool true)
  cases value : Value.get? entries name with
  | none => simp
  | some v =>
    obtain ⟨b, rfl⟩ := Value.eq_bool_of_isBoolean (given v value)
    simp [Value.truthy]

theorem represents_complete {entries : List (Value × Value)} {settings : TransportSettings}
    (modes : ∀ name ∈ Modes.names, Given Value.isBoolean entries name)
    (read : ReadFrom (transportData (.dict entries)).pairs settings) :
    Represents (.dict entries) ⟨(Modes.ofNames fun name =>
      ((Value.get? entries name).map (·.truthy)).getD false).complete, settings⟩ := by
  have silent := truthy_iff_of_given (modes "silent" (by decide))
  have quiet := truthy_iff_of_given (modes "quiet" (by decide))
  have blocking := truthy_iff_of_given (modes "blocking" (by decide))
  have formatted := truthy_iff_of_given (modes "formatted" (by decide))
  rw [Modes.complete_eq]
  constructor
  · exact (Bool.or_eq_true_iff ..).trans (or_congr silent formatted)
  · exact (Bool.or_eq_true_iff ..).trans (or_congr quiet formatted)
  · exact blocking
  · exact formatted
  · exact read

theorem normalize_dict (http : List (Value × Value)) :
    TransportSettings.normalize (.dict http) = ofEntries http := by
  cases http <;> rfl

theorem represents_default : Represents .null .default where
  silent := by simp [On, Value.pairs, Value.get?, RunConfig.default]
  quiet := by simp [On, Value.pairs, Value.get?, RunConfig.default]
  blocking := by simp [On, Value.pairs, Value.get?, RunConfig.default]
  formatted := by simp [On, Value.pairs, Value.get?, RunConfig.default]
  http := ⟨rfl, rfl, rfl, ⟨[], rfl, rfl⟩, rfl⟩

/-- Well-typed data is a configuration, but for times that are too large and headers that
cannot be written. -/
theorem ofData_cases {data : Value} (right : WellTyped data) :
    Oversized (transportData data).pairs ∧ ofData data = .error (.conversion .integerTooLarge) ∨
      ¬ Oversized (transportData data).pairs ∧
        ((∃ config, ofData data = .ok config ∧ Represents data config) ∨
          ∃ e, (headersData data).mapM textsOf = .error e ∧
            ofData data = .error (.conversion e)) := by
  cases data with
  | null =>
    refine .inr ⟨?_, .inl ⟨.default, rfl, represents_default⟩⟩
    rintro ⟨name, -, n, given, -⟩
    cases given
  | dict entries =>
    have modes := (wellTyped_dict_iff.mp right).2.1
    have settings := (wellTyped_dict_iff.mp right).2.2.2
    rw [ofData_of_wellTyped right, make, normalize_dict]
    rcases ofEntries_of_wellTyped settings with
      ⟨large, read⟩ | ⟨moderate, ⟨settings, read, faithful⟩ | ⟨e, unwritten, read⟩⟩
    · rw [read]
      exact .inl ⟨large, rfl⟩
    · rw [read]
      exact .inr ⟨moderate, .inl ⟨_, rfl, represents_complete modes faithful⟩⟩
    · rw [read]
      exact .inr ⟨moderate, .inr ⟨e, unwritten, rfl⟩⟩
  | _ => cases right

theorem wellTyped_of_ok {data : Value} {config : RunConfig} (read : ofData data = .ok config) :
    WellTyped data := by
  by_cases right : WellTyped data
  · exact right
  · obtain ⟨e, refused, -⟩ := ofData_refused right
    rw [refused] at read
    cases read

theorem ofData_oversized {data : Value} (right : WellTyped data)
    (large : Oversized (transportData data).pairs) :
    ofData data = .error (.conversion .integerTooLarge) := by
  rcases ofData_cases right with ⟨-, read⟩ | ⟨moderate, -⟩
  · exact read
  · exact absurd large moderate

/-- Data is a configuration or at fault itself, but for times that are too large. -/
theorem ofData_of_moderate {data : Value}
    (moderate : ¬ (WellTyped data ∧ Oversized (transportData data).pairs)) :
    (∃ config, ofData data = .ok config) ∨ Refused (ofData data) := by
  by_cases right : WellTyped data
  · rcases ofData_cases right with ⟨large, -⟩ | ⟨-, ⟨config, read, -⟩ | ⟨e, unwritten, read⟩⟩
    · exact absurd ⟨right, large⟩ moderate
    · exact .inl ⟨config, read⟩
    · rcases mapM_cases TransportSettings.textsOf_cases (headersData data) with
        ⟨texts, written, -⟩ | long
      · rw [written] at unwritten
        cases unwritten
      · rw [long] at unwritten
        cases unwritten
        exact .inr ⟨_, read, rfl⟩
  · exact .inr (ofData_refused right)

/-- A configuration is refused for what is wrong with its data, unless a time in it is too
large. -/
theorem ofData_fault_iff (data : Value) :
    ((∃ e, ofData data = .error e ∧ e.kind ≠ .value) ↔
      WellTyped data ∧ Oversized (transportData data).pairs) ∧
    ∀ e, ofData data = .error e → e.kind ≠ .value → e = .conversion .integerTooLarge := by
  by_cases both : WellTyped data ∧ Oversized (transportData data).pairs
  · rw [ofData_oversized both.1 both.2]
    refine ⟨⟨fun _ => both, fun _ => ⟨_, rfl, by decide⟩⟩, ?_⟩
    rintro e same -
    exact (Except.error.inj same).symm
  · have blamed : ∀ e, ofData data = .error e → e.kind = .value := by
      intro e fails
      rcases ofData_of_moderate both with ⟨config, read⟩ | ⟨e', refused, kind⟩
      · rw [read] at fails
        cases fails
      · rw [refused] at fails
        cases fails
        exact kind
    constructor
    · constructor
      · rintro ⟨e, fails, other⟩
        exact absurd (blamed e fails) other
      · intro both'
        exact absurd both' both
    · intro e fails other
      exact absurd (blamed e fails) other

/-- Data that gives nothing but a timeout. -/
def timeoutOnly (n : Int) : Value := .dict [(.text "http", .dict [(.text "timeout", .int n)])]

theorem wellTyped_timeoutOnly (n : Int) : WellTyped (timeoutOnly n) := of_decide_eq_true rfl

/-- A timeout of 310 digits is too large, and that is not reported. -/
theorem timeoutOnly_escapes :
    ∃ e, ofData (timeoutOnly (Nat.pow 10 309 : Nat)) = .error e ∧ e.kind = .overflow ∧
      (LoadError.config e).isReported = false := by
  have large : Oversized (transportData (timeoutOnly (Nat.pow 10 309 : Nat))).pairs :=
    ⟨"timeout", by decide, _, rfl, by decide +kernel⟩
  exact ⟨_, ofData_oversized (wellTyped_timeoutOnly _) large, rfl, rfl⟩

theorem mapM_headersData {data : Value}
    (short : ∀ headers, Value.get? (transportData data).pairs "headers" = some (.dict headers) →
      ∀ e ∈ headers, e.1.IsShort ∧ e.2.IsShort) :
    ∃ texts, (headersData data).mapM textsOf = .ok texts := by
  apply mapM_isOk
  intro e mem
  apply TransportSettings.textsOf_of_isShort
  unfold headersData at mem
  cases value : Value.get? (transportData data).pairs "headers" with
  | none =>
    rw [value] at mem
    cases mem
  | some v =>
    rw [value] at mem
    cases v with
    | dict headers => exact short headers value e mem
    | _ => cases mem

/-- Of the data whose numbers are neither too large nor too long, the configurations are what is
well typed, and they are what the data says. -/
theorem ofData_accepts_iff {data : Value}
    (small : ∀ name ∈ ["timeout", "backoff"], ∀ n : Int,
      Value.get? (transportData data).pairs name = some (.int n) → n.natAbs < Nat.pow 2 1023)
    (short : ∀ headers, Value.get? (transportData data).pairs "headers" = some (.dict headers) →
      ∀ e ∈ headers, e.1.IsShort ∧ e.2.IsShort) :
    ((∃ config, ofData data = .ok config) ↔ WellTyped data) ∧
    (¬ WellTyped data → ∃ e, ofData data = .error e ∧ e.kind = .value) ∧
    ∀ config, ofData data = .ok config → Represents data config := by
  have moderate : ¬ TransportSettings.Oversized (transportData data).pairs := by
    refine TransportSettings.not_oversized_of_small ?_ small
    apply FloatRange.two_pow_lt_firstOverflow
    decide
  obtain ⟨texts, written⟩ := mapM_headersData short
  have accepted : WellTyped data → ∃ config, ofData data = .ok config ∧ Represents data config := by
    intro right
    rcases ofData_cases right with ⟨large, -⟩ | ⟨-, accepted | ⟨e, unwritten, -⟩⟩
    · exact absurd large moderate
    · exact accepted
    · rw [written] at unwritten
      cases unwritten
  refine ⟨⟨?_, ?_⟩, fun wrong => ofData_refused wrong, ?_⟩
  · rintro ⟨config, read⟩
    exact wellTyped_of_ok read
  · intro right
    obtain ⟨config, read, -⟩ := accepted right
    exact ⟨config, read⟩
  · intro config read
    obtain ⟨config', read', faithful⟩ := accepted (wellTyped_of_ok read)
    rw [read'] at read
    cases read
    exact faithful

/-- A verdict on requests with a short timeout and a header. -/
def verdictData : Value := .dict [(.text "formatted", .bool true), (.text "http",
  .dict [(.text "timeout", .int 3), (.text "headers", .dict [(.text "attempt", .int 1)])])]

theorem ofData_verdictData :
    ∃ config, ofData verdictData = .ok config ∧ config.modes.silent = true ∧
      config.http.timeout = .ofInt 3 ∧ config.http.retries = 0 ∧
      config.http.headers = [("attempt", "1")] := by
  have small : ∀ name ∈ ["timeout", "backoff"], ∀ n : Int,
      Value.get? (transportData verdictData).pairs name = some (.int n) →
        n.natAbs < Nat.pow 2 1023 := by
    intro name mem n given
    simp only [List.mem_cons, List.not_mem_nil, or_false] at mem
    rcases mem with rfl | rfl
    · cases given
      decide +kernel
    · cases given
  have short : ∀ headers,
      Value.get? (transportData verdictData).pairs "headers" = some (.dict headers) →
        ∀ e ∈ headers, e.1.IsShort ∧ e.2.IsShort := by
    intro headers given e mem
    cases given
    rw [List.mem_singleton] at mem
    subst mem
    constructor
    · intro n inside
      cases inside
    · intro n inside
      cases inside
      decide
  obtain ⟨accepts, -, faithful⟩ := ofData_accepts_iff small short
  obtain ⟨config, read⟩ := accepts.mpr (by decide)
  have represents := faithful config read
  obtain ⟨texts, written, headers⟩ := represents.http.headers
  refine ⟨config, read, represents.silent.mpr (.inr rfl), ?_, ?_, ?_⟩
  · exact (Option.some.inj represents.http.timeout).symm
  · exact (Value.int.inj represents.http.retries).symm
  · have one : Value.intText 1 = .ok "1" := if_pos (by decide +kernel)
    have pair : textsOf (.text "attempt", .int 1) = .ok ("attempt", "1") := by
      rw [textsOf, Value.toText, Value.toText, Value.asText, Value.asText, Value.shown, one]
      · rfl
      · nofun
      · nofun
    change [(Value.text "attempt", Value.int 1)].mapM textsOf = _ at written
    rw [List.mapM_cons, pair] at written
    cases written
    exact headers

end RunConfig

end RouteScript
