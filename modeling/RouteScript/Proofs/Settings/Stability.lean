import RouteScript.Proofs.Results
import RouteScript.Settings.RunConfig

/-!
Settings that have been read stay as they are.

Settings are read from data that may say the same in many ways: a number as a text, headers
as pairs, one header twice. What is read is in one form only, and turning it back into data
and reading that changes nothing (`normalize_stable`). This hangs on the headers: their names
are texts of which none comes twice (`normalize_nodup`), so that reading them again adds each
at the end (`headersOf_texts`).

A configuration that is accepted holds the settings of its own data (`ofData_http`), and its
number of retries is an integer of that data (`ofData_retries`).
-/

namespace RouteScript

namespace TransportSettings

/-! ### Reading settings twice -/

/-- Headers are told apart by their names. -/
theorem headersOf_nodup {entries : List (Value × Value)} {headers : List (String × String)}
    (read : headersOf entries = .ok headers) : (headers.map Prod.fst).Nodup := by
  refine ok_of_foldlM (P := fun headers => (headers.map Prod.fst).Nodup) ?_ List.nodup_nil read
  intro before (k, v) behind distinct done
  obtain ⟨name, -, done⟩ := ok_of_bind done
  obtain ⟨text, -, done⟩ := ok_of_bind done
  cases done
  exact Assoc.nodup_keys_set name text distinct

theorem normalize_nodup {data : Value} {settings : TransportSettings}
    (read : normalize data = .ok settings) : (settings.headers.map Prod.fst).Nodup := by
  obtain ⟨entries, -, read⟩ := ok_of_bind read
  obtain ⟨timeout, -, read⟩ := ok_of_bind read
  obtain ⟨retries, -, read⟩ := ok_of_bind read
  obtain ⟨backoff, -, read⟩ := ok_of_bind read
  obtain ⟨fields, -, read⟩ := ok_of_bind read
  obtain ⟨headers, named, read⟩ := ok_of_bind read
  cases read
  exact headersOf_nodup named

/-- Headers that are texts already are added at the end, each under a name of its own. -/
theorem headersOf_texts_behind (before later : List (String × String))
    (distinct : ((before ++ later).map Prod.fst).Nodup) :
    (later.map fun (k, v) => (Value.text k, Value.text v)).foldlM
      (fun headers (k, v) => do return Assoc.set (← k.toText) (← v.toText) headers) before =
        Except.ok (ε := ConversionError) (before ++ later) := by
  induction later generalizing before with
  | nil =>
    rw [List.append_nil]
    rfl
  | cons e later ih =>
    obtain ⟨k, v⟩ := e
    have moved : before ++ (k, v) :: later = before ++ [(k, v)] ++ later := by
      rw [List.append_assoc, List.singleton_append]
    have new : k ∉ before.map Prod.fst := by
      intro mem
      rw [List.map_append, List.nodup_append] at distinct
      exact distinct.2.2 k mem k List.mem_cons_self rfl
    rw [moved] at distinct ⊢
    rw [← ih (before ++ [(k, v)]) distinct, ← Assoc.set_of_new v new]
    rfl

theorem headersOf_texts {headers : List (String × String)}
    (distinct : (headers.map Prod.fst).Nodup) :
    headersOf (headers.map fun (k, v) => (.text k, .text v)) = .ok headers :=
  headersOf_texts_behind [] headers distinct

/-- Settings turned into data are read back as they were. -/
theorem normalize_toValue {settings : TransportSettings}
    (distinct : (settings.headers.map Prod.fst).Nodup) :
    normalize settings.toValue = .ok settings := by
  let fields : List (Value × Value) := settings.headers.map fun (k, v) => (.text k, .text v)
  -- A mapping of no headers counts as false, so it is read as if it were not there.
  have mapping : (Value.dict fields).entriesOrEmpty = .ok fields := by
    cases fields <;> rfl
  have unfolded : normalize settings.toValue = (do
      let fields ← (Value.dict fields).entriesOrEmpty
      let headers ← headersOf fields
      return { settings with headers }) := rfl
  rw [unfolded, mapping]
  exact congrArg (Except.map fun headers => { settings with headers }) (headersOf_texts distinct)

theorem normalize_stable {data : Value} {settings : TransportSettings}
    (read : normalize data = .ok settings) : normalize settings.toValue = .ok settings :=
  normalize_toValue (normalize_nodup read)

/-- The number of retries is that of the mapping, as an integer. -/
theorem normalize_retries {entries : List (Value × Value)} {settings : TransportSettings}
    (read : normalize (.dict entries) = .ok settings) :
    ((Value.get? entries "retries").getD (.int defaultRetries)).toInt = .ok settings.retries := by
  have opened : (Value.dict entries).entriesOrEmpty = .ok entries := by
    cases entries <;> rfl
  rw [normalize, opened] at read
  obtain ⟨timeout, -, read⟩ := ok_of_bind (x := Value.toFloat _) read
  obtain ⟨retries, whole, read⟩ := ok_of_bind read
  obtain ⟨backoff, -, read⟩ := ok_of_bind read
  obtain ⟨fields, -, read⟩ := ok_of_bind read
  obtain ⟨headers, -, read⟩ := ok_of_bind read
  cases read
  exact whole

end TransportSettings

namespace RunConfig

/-! ### Accepted configurations -/

/-- The data that the settings of the transport are read from. -/
def transportData : Value → Value
  | .dict entries => (Value.get? entries "http").getD .null
  | _ => .null

/-- A mapping that is accepted has passed the checks of its modes and of its settings. -/
theorem ofData_dict {entries : List (Value × Value)} {config : RunConfig}
    (accepted : ofData (.dict entries) = .ok config) :
    ∃ http, httpEntries entries = .ok http ∧ Modes.names.forM (checkMode entries) = .ok () ∧
      checkSettings http = .ok () ∧
      make (.ofNames fun name => ((Value.get? entries name).map (·.truthy)).getD false)
        (.dict http) = .ok config := by
  obtain ⟨unknown, -, accepted⟩ := ok_of_bind accepted
  split at accepted
  · cases accepted
  · obtain ⟨http, found, accepted⟩ := ok_of_bind accepted
    obtain ⟨unknown, -, accepted⟩ := ok_of_bind accepted
    split at accepted
    · cases accepted
    · obtain ⟨⟨⟩, modes, accepted⟩ := ok_of_bind accepted
      obtain ⟨⟨⟩, settings, accepted⟩ := ok_of_bind accepted
      exact ⟨http, found, modes, settings, ok_of_mapError accepted⟩

theorem normalize_transportData {entries http : List (Value × Value)}
    (found : httpEntries entries = .ok http) :
    TransportSettings.normalize (transportData (.dict entries)) =
      TransportSettings.normalize (.dict http) := by
  have nothing : ∀ v : Value, v.truthy = false →
      TransportSettings.normalize v = TransportSettings.normalize (.dict []) := by
    intro v untrue
    simp only [TransportSettings.normalize, Value.entriesOrEmpty, untrue]
    rfl
  change TransportSettings.normalize ((Value.get? entries "http").getD .null) = _
  unfold httpEntries at found
  cases value : Value.get? entries "http" with
  | none =>
    simp only [value] at found
    cases found
    exact nothing .null rfl
  | some v =>
    simp only [value] at found
    split at found
    · split at found
      · cases found
        rfl
      · cases found
    · next untrue =>
      cases found
      exact nothing v (Bool.eq_false_iff.mpr untrue)

/-- A configuration is made of what its settings are read as, and of the modes with all that
they imply. -/
theorem make_eq {modes : Modes} {http : Value} {config : RunConfig}
    (made : make modes http = .ok config) :
    TransportSettings.normalize http = .ok config.http ∧ config.modes = modes.complete := by
  unfold make at made
  cases read : TransportSettings.normalize http with
  | error e =>
    rw [read] at made
    cases made
  | ok settings =>
    rw [read] at made
    cases made
    exact ⟨rfl, rfl⟩

/-- A configuration that is accepted has the settings of its data. -/
theorem ofData_http {data : Value} {config : RunConfig} (accepted : ofData data = .ok config) :
    TransportSettings.normalize (transportData data) = .ok config.http := by
  cases data with
  | null =>
    cases accepted
    rfl
  | dict entries =>
    obtain ⟨http, found, -, -, made⟩ := ofData_dict accepted
    rw [normalize_transportData found]
    exact (make_eq made).1
  | _ => cases accepted

theorem httpEntries_of_dict {entries http : List (Value × Value)}
    (given : transportData (.dict entries) = .dict http) : httpEntries entries = .ok http := by
  change (Value.get? entries "http").getD .null = .dict http at given
  unfold httpEntries
  cases value : Value.get? entries "http" with
  | none =>
    rw [value] at given
    cases given
  | some v =>
    rw [value] at given
    cases given
    cases http <;> rfl

/-- Settings that pass the checks have an integer for the retries, if they have any. -/
theorem checkSettings_retries {http : List (Value × Value)} (checked : checkSettings http = .ok ()) :
    Value.get? http "retries" = none ∨ ∃ n, Value.get? http "retries" = some (.int n) := by
  obtain ⟨⟨⟩, -, checked⟩ := ok_of_bind checked
  obtain ⟨⟨⟩, -, checked⟩ := ok_of_bind checked
  cases value : Value.get? http "retries" with
  | none => exact .inl rfl
  | some v =>
    rw [value] at checked
    cases v with
    | int n => exact .inr ⟨n, rfl⟩
    | _ => cases checked

/-- The retries of a configuration that is accepted are those that its data gives. -/
theorem ofData_retries {data : Value} {config : RunConfig} (accepted : ofData data = .ok config)
    {http : List (Value × Value)} (given : transportData data = .dict http) :
    (Value.get? http "retries").getD (.int TransportSettings.defaultRetries) =
      .int config.http.retries := by
  have read := ofData_http accepted
  rw [given] at read
  have whole := TransportSettings.normalize_retries read
  cases data with
  | dict entries =>
    obtain ⟨http', found, -, checked, -⟩ := ofData_dict accepted
    rw [httpEntries_of_dict given] at found
    cases found
    rcases checkSettings_retries checked with absent | ⟨n, present⟩
    · rw [absent] at whole ⊢
      exact congrArg Value.int (Except.ok.inj whole)
    · rw [present] at whole ⊢
      exact congrArg Value.int (Except.ok.inj whole)
  | _ => cases given

/-- With flags a configuration keeps its settings. -/
theorem withFlags_ofData {data : Value} {config : RunConfig} (accepted : ofData data = .ok config)
    (flags : Modes) :
    config.withFlags flags = .ok ⟨(config.modes.union flags).complete, config.http⟩ := by
  rw [withFlags, make, TransportSettings.normalize_stable (ofData_http accepted)]
  rfl

end RunConfig

end RouteScript
