import RouteScript.Client.Routes
import RouteScript.Proofs.Command.Pages

/-!
The files of a command line, in order.

A command whose service answers runs its files one after the other, each as it would be run by
itself (`runFiles_in_order`). It exits with status 0 if all go through, and otherwise with
status 1 at the first that does not; the files behind that one are not even looked at.
-/

namespace RouteScript

variable {τ : Type}

namespace Command

/-- The words of a command line come to the run of its files. -/
theorem runWith_eq_runFiles {load : Loader} {transport : Transport τ} {scripts : Scripts}
    {words : List String} {a : Arguments} {loaded config : RunConfig}
    (parsed : Arguments.parse words = .ok a) (loads : load a.config = .ok loaded)
    (flagged : loaded.withFlags a.modes = .ok config) (traffic : Traffic τ) :
    runWith load transport scripts true words traffic =
      let c := runFiles (config.host transport) scripts a.files 0 0 traffic
      { c with exit := c.exit.mapError .client } := by
  have same : runArguments load transport scripts true a traffic =
      let c := runFiles (config.host transport) scripts a.files 0 0 traffic
      { c with exit := c.exit.mapError .client } := by
    simp only [runArguments, loads, flagged]
    rfl
  rw [← same]
  unfold runWith
  split
  · cases parsed
  · rw [Arguments.parse, Arguments.parseFrom_unknown _ _ (by decide +kernel)
      (by decide +kernel)] at parsed
    cases parsed
  · rw [Arguments.parse, Arguments.parseFrom_unknown _ _ (by decide +kernel)
      (by decide +kernel)] at parsed
    cases parsed
  · simp only [parsed]

/-- A command runs its files in order, each as if it were run by itself on the state that the
files before it left. If all of them go through, each has its page and the status is 0.
Otherwise the status is 1: the files in front of the first that stops have their pages, that
one is shown without a tally, and the files behind it could be anything.

To run a file by itself is to run it with an empty log. A script without an error has the
status of an error only if it was aborted, and a run that comes to an end has its cursor there,
so that its counts come back. All this is what the words of a command line come to that asks for
these files under this configuration, however that is loaded. -/
theorem runFiles_in_order (config : RunConfig) (transport : Transport τ)
    (answers : (config.host transport).service.Answers) (scripts : Scripts) (paths : List String)
    (traffic : Traffic τ) :
    let host := config.host transport
    let pages := Report.pages config.modes.formatted []
    let c := runFiles host scripts paths 0 0 traffic
    ((∃ reports behind, host.RunsEach scripts paths traffic reports behind ∧
        (∀ r ∈ reports, ¬r.Stops) ∧ c = ⟨pages reports, .ok 0, behind⟩) ∨
      ∃ before path after reports here r behind, paths = before ++ path :: after ∧
        host.RunsEach scripts before traffic reports here ∧ (∀ r ∈ reports, ¬r.Stops) ∧
        host.runFile scripts path here = (.ok r, behind) ∧ r.Stops ∧
        c = ⟨pages reports ++ r.lastPage, .ok 1, behind⟩ ∧
        ∀ scripts' after', (∀ p ∈ before ++ [path], scripts' p = scripts p) →
          runFiles host scripts' (before ++ path :: after') 0 0 traffic = c) ∧
    (∀ path state log, host.runFile scripts path ⟨state, log⟩ =
      ((host.runFile scripts path ⟨state, []⟩).1,
        (host.runFile scripts path ⟨state, []⟩).2.after log)) ∧
    (∀ compiled s r s', compiled.diagnostics.triggered = false →
      host.execute compiled s = (.ok r, s') → r.status = .error → r.aborted = true) ∧
    (∀ program s, (Machine.run host.service program host.machine s).ending = .finished →
      (Machine.run host.service program host.machine s).machine.cursor = program.length) ∧
    ∀ (load : Loader) words a loaded, Arguments.parse words = .ok a → a.files = paths →
      load a.config = .ok loaded → loaded.withFlags a.modes = .ok config →
      runWith load transport scripts true words traffic =
        { c with exit := c.exit.mapError .client } := by
  intro host pages c
  have counts : host.counts = true := rfl
  refine ⟨?_, fun path state log => ?_, ?_, ?_, ?_⟩
  · rcases Host.RunsEach.split counts answers scripts paths traffic with
      ⟨reports, behind, runs, go⟩ | ⟨before, path, after, reports, here, r, behind, rfl, runs, go,
        ran, stops⟩
    · exact .inl ⟨reports, behind, runs, go, runFiles_all counts answers runs go⟩
    · have ends : ∀ scripts' after', (∀ p ∈ before ++ [path], scripts' p = scripts p) →
          runFiles host scripts' (before ++ path :: after') 0 0 traffic =
            ⟨pages reports ++ r.lastPage, .ok 1, behind⟩ := by
        intro scripts' after' same
        have runs' := runs.congr fun p mem => same p (List.mem_append_left _ mem)
        have ran' : host.runFile scripts' path here = (.ok r, behind) := by
          rw [Host.runFile_congr (same path (List.mem_append_right _ List.mem_cons_self))]
          exact ran
        exact runFiles_until counts answers runs' go ran' stops after'
      have here_too := ends scripts after fun _ _ => rfl
      refine .inr ⟨before, path, after, reports, here, r, behind, rfl, runs, go, ran, stops,
        here_too, fun scripts' after' same => ?_⟩
      exact (ends scripts' after' same).trans here_too.symm
  · have fresh : (⟨state, log⟩ : Traffic τ) = Traffic.after log ⟨state, []⟩ := by
      rw [Traffic.after, List.append_nil]
    rw [fresh]
    exact host.execute_commutes (Client.service_commutes transport config.http.toValue log) _ _
  · exact fun compiled s r s' clean ran error => Host.execute_status counts clean ran error
  · exact fun program s finished => Machine.run_cursor host.service program host.machine s finished
  · rintro load words a loaded parsed rfl loads flagged
    exact runWith_eq_runFiles parsed loads flagged traffic

/-- The second of three files is aborted, so the third, which is not there, does not matter, and
the only tally is that of the first. Without blocking, the second file has its tally as well. -/
theorem runFiles_in_order_aborted :
    let config : RunConfig := ⟨{ blocking := true }, .default⟩
    let transport : Transport Nat := fun _ n =>
      (if n = 0 then .reply (.int 200) (some "") else Route.noConnection, n + 1)
    let files : Files := fun path =>
      if path = "a" then .file (Chunk.textBytes "print \"\" get \"/a\" print \"x\"")
      else if path = "b" then .file (Chunk.textBytes "get \"/b\" print \"y\"")
      else .missing
    let a : Arguments := { modes := { blocking := true }, files := ["a", "b", "c"] }
    let c := runFiles (config.host transport) files ["a", "b", "c"] 0 0 ⟨0, []⟩
    let first : List Line := [.err "warning: a:1:7 Empty string", .out "", .out "", .out "x",
      .out "Done ! 1 tests have been made with no errors."]
    let failed : Line := .err "route error: GET /b : Unable to make request"
    ((config.host transport).service.Answers ∧ Arguments.parse ["-b", "a", "b", "c"] = .ok a ∧
      RunConfig.load files a.config = .ok .default ∧
      RunConfig.default.withFlags a.modes = .ok config) ∧
    run transport files true ["-b", "a", "b", "c"] ⟨0, []⟩ =
      { c with exit := c.exit.mapError .client } ∧
    (c.exit.toOption = some 1 ∧ c.service.transport = 2 ∧ c.lines = first ++ [failed]) ∧
    (runFiles (RunConfig.default.host transport) files ["a", "b"] 0 0 ⟨0, []⟩).lines =
      first ++ [failed, .out "y", .out "Done ! 2 tests have been made.", .out "1 were successful",
        .out "1 came with errors"] ∧
    ∃ before path after, ["a", "b", "c"] = before ++ path :: after ∧
      ∀ scripts' after', (∀ p ∈ before ++ [path], scripts' p = files.scripts p) →
        runFiles (config.host transport) scripts' (before ++ path :: after') 0 0 ⟨0, []⟩ = c := by
  intro config transport files a c first failed
  have answers : (config.host transport).service.Answers := by
    rintro method url body ⟨n, log⟩
    cases n with
    | zero => exact ⟨some ⟨200, ""⟩, rfl, by decide +kernel⟩
    | succ n => exact ⟨none, rfl, rfl⟩
  have blocking : Choice.ofWord? "-b" = some (.modes { blocking := true }) := by decide +kernel
  have parsed : Arguments.parse ["-b", "a", "b", "c"] = .ok a := by
    rw [Arguments.parse, Arguments.parseFrom_modes _ _ (by decide +kernel) blocking,
      Arguments.parseFrom_files _ _ (by decide +kernel)]
    rfl
  have shown : c.exit.toOption = some 1 ∧ c.service.transport = 2 ∧
      c.lines = first ++ [failed] := by decide +kernel
  obtain ⟨how, -, -, -, asked⟩ :=
    runFiles_in_order config transport answers files ["a", "b", "c"] ⟨0, []⟩
  refine ⟨⟨answers, parsed, rfl, rfl⟩,
    asked (RunConfig.load files) _ a .default parsed rfl rfl rfl, shown, by decide +kernel, ?_⟩
  rcases how with ⟨reports, behind, -, -, eq⟩ |
    ⟨before, path, after, reports, here, r, behind, cut, -, -, -, -, -, ends⟩
  · have failed := shown.1
    change c = _ at eq
    rw [eq] at failed
    cases failed
  · exact ⟨before, path, after, cut, ends⟩

end Command

end RouteScript
