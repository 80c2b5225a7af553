import RouteScript.Proofs.Command.InOrder
import RouteScript.Proofs.Settings.Stability

/-!
Formatted mode.

In formatted mode a machine is silent and quiet, so that scripts have no effects, and the
summary is a verdict alone (`Report.verdicts`). What is left besides the verdicts are the
warnings of the scripts, which are written in every mode (`formatted_verdicts`): only if there
are none does a command in formatted mode write verdicts and nothing else.
-/

namespace RouteScript

/-! ### Warnings on their streams -/

namespace Diagnostics

variable {d : Diagnostics}

theorem lines_of_warning {e : Diagnostic} (mild : e.fatal = false) (file : String) :
    ∃ text, e.lines file = [.err text] := by
  cases e with
  | unknownEscape pos => exact ⟨_, rfl⟩
  | emptyString pos => exact ⟨_, rfl⟩
  | _ => cases mild

/-- Warnings are reported on standard error. -/
theorem render_streams (clean : ∀ e ∈ d.entries, e.fatal = false) :
    d.render.filter (·.stream = .err) = d.render ∧ d.render.filter (·.stream = .out) = [] := by
  have all : ∀ l ∈ d.render, l.stream = .err := by
    intro l mem
    obtain ⟨e, here, mem⟩ := List.mem_flatMap.mp mem
    obtain ⟨text, eq⟩ := lines_of_warning (clean e here) d.file
    rw [eq, List.mem_singleton] at mem
    rw [mem]
    rfl
  constructor
  · exact List.filter_eq_self.mpr fun l mem => decide_eq_true (all l mem)
  · refine List.filter_eq_nil_iff.mpr fun l mem out => ?_
    rw [all l mem] at out
    cases out

/-- The blank line behind warnings is the only one on standard output. -/
theorem cautions_streams (clean : ∀ e ∈ d.entries, e.fatal = false) :
    d.cautions.filter (·.stream = .err) = d.render ∧
      d.cautions.filter (·.stream = .out) = if d.entries = [] then [] else [.out ""] := by
  obtain ⟨onErr, onOut⟩ := render_streams clean
  rw [cautions_eq clean, List.filter_append, List.filter_append, onErr, onOut]
  split
  · exact ⟨List.append_nil _, rfl⟩
  · exact ⟨List.append_nil _, rfl⟩

/-- Where nothing is reported nothing is recorded. -/
theorem render_eq_nil (clean : ∀ e ∈ d.entries, e.fatal = false) (none : d.render = []) :
    d.entries = [] := by
  refine List.eq_nil_iff_forall_not_mem.mpr fun e mem => ?_
  obtain ⟨text, eq⟩ := lines_of_warning (clean e mem) d.file
  have written : Line.err text ∈ d.render := List.mem_flatMap.mpr ⟨e, mem, by simp [eq]⟩
  rw [none] at written
  cases written

end Diagnostics

/-! ### Verdicts -/

namespace Report

/-- Whether no route has failed in some scripts. -/
def verdict (reports : List Report) : String :=
  if reports.all (·.err == 0) then "true" else "false"

/-- For each of some scripts behind others, the verdict on all up to it. -/
def verdicts (earlier reports : List Report) : List Line :=
  (List.range reports.length).map fun k => .out (verdict (earlier ++ reports.take (k + 1)))

theorem verdicts_cons (earlier : List Report) (r : Report) (rest : List Report) :
    verdicts earlier (r :: rest) =
      .out (verdict (earlier ++ [r])) :: verdicts (earlier ++ [r]) rest := by
  simp only [verdicts, List.length_cons, List.range_succ_eq_map, List.map_cons, List.map_map,
    List.take_succ_cons, List.take_zero, List.append_assoc, List.singleton_append]
  rfl

/-- Lines about some scripts, one about each, with a blank line before that about a script with
warnings. -/
def spaced (reports : List Report) (lines : List Line) : List Line :=
  (List.zipWith (fun r l => (if r.diagnostics.entries = [] then [] else [.out ""]) ++ [l])
    reports lines).flatten

theorem errTotal_eq_zero_iff (reports : List Report) :
    errTotal reports = 0 ↔ reports.all (·.err == 0) = true := by
  have counted : ∀ n, reports.foldl (fun n r => n + r.err) n = 0 ↔
      n = 0 ∧ reports.all (·.err == 0) = true := by
    induction reports with
    | nil => intro n; simp
    | cons r rest ih =>
      intro n
      rw [List.foldl_cons, ih, List.all_cons, Bool.and_eq_true, beq_iff_eq, Nat.add_eq_zero_iff,
        and_assoc]
  rw [errTotal, counted]
  exact and_iff_right rfl

/-- In formatted mode the tally is the verdict. -/
theorem tally_formatted (reports : List Report) :
    tally true (okTotal reports) (errTotal reports) = [.out (verdict reports)] := by
  have zero := errTotal_eq_zero_iff reports
  unfold verdict
  cases total : errTotal reports with
  | zero =>
    rw [if_pos (zero.mp total)]
    rfl
  | succ n =>
    rw [if_neg fun all => by rw [zero.mpr all] at total; cases total]
    rfl

/-- The page of a script without effects: its warnings and the verdict. -/
theorem page_formatted {r : Report} (none : r.effects = []) (earlier : List Report) :
    r.page true earlier = r.diagnostics.cautions ++ [.out (verdict (earlier ++ [r]))] := by
  rw [page, none, tally_formatted, List.map_nil, List.append_nil]

/-- What is written about scripts without errors and without effects: on standard error their
warnings, and on standard output the verdicts, with a blank line before that on a script with
warnings. -/
theorem pages_streams {reports : List Report} (none : ∀ r ∈ reports, r.effects = [])
    (clean : ∀ r ∈ reports, ∀ d ∈ r.diagnostics.entries, d.fatal = false) (earlier : List Report) :
    (pages true earlier reports).filter (·.stream = .err) =
        reports.flatMap (·.diagnostics.render) ∧
      (pages true earlier reports).filter (·.stream = .out) =
        spaced reports (verdicts earlier reports) := by
  induction reports generalizing earlier with
  | nil => exact ⟨rfl, rfl⟩
  | cons r rest ih =>
    obtain ⟨onErr, onOut⟩ := Diagnostics.cautions_streams (clean r List.mem_cons_self)
    obtain ⟨restErr, restOut⟩ := ih (fun r mem => none r (List.mem_cons_of_mem _ mem))
      (fun r mem => clean r (List.mem_cons_of_mem _ mem)) (earlier ++ [r])
    rw [pages, page_formatted (none r List.mem_cons_self), verdicts_cons]
    constructor
    · rw [List.filter_append, List.filter_append, onErr, restErr]
      rw [List.flatMap_cons]
      exact congrArg (· ++ _) (List.append_nil _)
    · rw [List.filter_append, List.filter_append, onOut, restOut]
      rfl

/-- Without warnings there are no blank lines. -/
theorem spaced_verdicts {reports : List Report}
    (silent : ∀ r ∈ reports, r.diagnostics.entries = []) (earlier : List Report) :
    spaced reports (verdicts earlier reports) = verdicts earlier reports := by
  induction reports generalizing earlier with
  | nil => rfl
  | cons r rest ih =>
    have others := ih (fun r mem => silent r (List.mem_cons_of_mem _ mem)) (earlier ++ [r])
    rw [spaced] at others ⊢
    rw [verdicts_cons, List.zipWith_cons_cons, List.flatten_cons, others,
      if_pos (silent r List.mem_cons_self)]
    rfl

/-- There is nothing but the verdicts exactly if there are no warnings. -/
theorem verdicts_alone_iff {reports : List Report}
    (clean : ∀ r ∈ reports, ∀ d ∈ r.diagnostics.entries, d.fatal = false) (earlier : List Report) :
    reports.flatMap (·.diagnostics.render) = [] ∧
        spaced reports (verdicts earlier reports) = verdicts earlier reports ↔
      ∀ r ∈ reports, r.diagnostics.entries = [] := by
  constructor
  · rintro ⟨none, -⟩ r mem
    exact Diagnostics.render_eq_nil (clean r mem) (List.flatMap_eq_nil_iff.mp none r mem)
  · intro silent
    refine ⟨List.flatMap_eq_nil_iff.mpr fun r mem => ?_, spaced_verdicts silent earlier⟩
    rw [Diagnostics.render, silent r mem]
    rfl

end Report

/-! ### Formatted mode -/

/-- A configuration in formatted mode is silent and quiet. -/
theorem RunConfig.make_formatted {modes : Modes} {http : Value} {config : RunConfig}
    (made : make modes http = .ok config) (formatted : config.modes.formatted = true) :
    config.modes.silent = true ∧ config.modes.quiet = true := by
  have complete := (make_eq made).2
  have asked : modes.formatted = true := by
    rw [complete] at formatted
    unfold Modes.complete at formatted
    split at formatted <;> assumption
  rw [complete, Modes.complete, asked]
  exact ⟨rfl, rfl⟩

namespace Host

variable {σ ε : Type} {h : Host σ ε}

/-- A silent and quiet host that does not block goes through all scripts without errors. -/
theorem RunsEach.of_clean (counts : h.counts = true) (answers : h.service.Answers)
    (silent : h.modes.silent = true) (quiet : h.modes.quiet = true)
    (free : h.modes.blocking = false) (scripts : Scripts) {paths : List String}
    (clean : ∀ path ∈ paths, ∀ d ∈ (compileFile scripts path).diagnostics.entries,
      d.fatal = false) (s : σ) :
    ∃ reports behind, h.RunsEach scripts paths s reports behind ∧
      reports.map (·.diagnostics) = paths.map (compileFile scripts · |>.diagnostics) ∧
      ∀ r ∈ reports, ¬r.Stops ∧ r.effects = [] := by
  induction paths generalizing s with
  | nil => exact ⟨[], s, .none, rfl, nofun⟩
  | cons path rest ih =>
    obtain ⟨r, s', ran, same, account⟩ := runFile_account counts answers scripts path s
    have mild := clean path List.mem_cons_self
    rw [← same] at mild
    have goes : ¬r.Stops := by
      rintro (⟨d, mem, fatal⟩ | aborted)
      · rw [mild d mem] at fatal
        cases fatal
      · rcases account with ⟨⟨d, mem, fatal⟩, -⟩ | ⟨-, -, -, blocked⟩
        · rw [mild d mem] at fatal
          cases fatal
        · rw [free] at blocked
          exact nomatch (blocked.mp aborted).1
    obtain ⟨reports, behind, runs, diagnostics, others⟩ :=
      ih (fun p mem => clean p (List.mem_cons_of_mem _ mem)) s'
    refine ⟨r :: reports, behind, .next ran runs, ?_, fun x mem => ?_⟩
    · rw [List.map_cons, List.map_cons, same, diagnostics]
    · rcases List.mem_cons.mp mem with rfl | mem
      · exact ⟨goes, execute_effects counts silent quiet ran⟩
      · exact others x mem

end Host

namespace Command

variable {τ : Type}

/-- A command in formatted mode that does not block, over scripts without errors. It goes
through all of them and exits with status 0. On standard output there is one line for each
script, which says whether no route has failed up to then; but each script with warnings has
these on standard error and a blank line on standard output besides. So nothing but the
verdicts is written exactly if there are no warnings. -/
theorem formatted_verdicts {modes : Modes} {http : Value} {config : RunConfig}
    (made : RunConfig.make modes http = .ok config) (formatted : config.modes.formatted = true)
    (free : config.modes.blocking = false) (transport : Transport τ)
    (answers : (config.host transport).service.Answers) (scripts : Scripts) {paths : List String}
    (clean : ∀ path ∈ paths, ∀ d ∈ (compileFile scripts path).diagnostics.entries,
      d.fatal = false) (traffic : Traffic τ) :
    let c := runFiles (config.host transport) scripts paths 0 0 traffic
    let onErr := c.lines.filter (·.stream = .err)
    let onOut := c.lines.filter (·.stream = .out)
    ∃ reports behind, (config.host transport).RunsEach scripts paths traffic reports behind ∧
      reports.map (·.diagnostics) = paths.map (compileFile scripts · |>.diagnostics) ∧
      c.exit = .ok 0 ∧ c.service = behind ∧
      onErr = reports.flatMap (·.diagnostics.render) ∧
      onOut = Report.spaced reports (Report.verdicts [] reports) ∧
      (onErr = [] ∧ onOut = Report.verdicts [] reports ↔
        ∀ path ∈ paths, (compileFile scripts path).diagnostics.entries = []) ∧
      ∀ (load : Loader) words a loaded, Arguments.parse words = .ok a → a.files = paths →
        load a.config = .ok loaded → loaded.withFlags a.modes = .ok config →
        runWith load transport scripts true words traffic =
          { c with exit := c.exit.mapError .client } := by
  intro c onErr onOut
  obtain ⟨silent, quiet⟩ := RunConfig.make_formatted made formatted
  obtain ⟨reports, behind, runs, same, account⟩ := Host.RunsEach.of_clean
    (h := config.host transport) rfl answers silent quiet free scripts clean traffic
  have ran : c = ⟨Report.pages true [] reports, .ok 0, behind⟩ := by
    have mode : (config.host transport).modes.formatted = true := formatted
    rw [← mode]
    exact runFiles_all rfl answers runs fun r mem => (account r mem).1
  -- What holds of the diagnostics of all files holds of those in the reports.
  have diagnosed (P : Diagnostics → Prop) :
      (∀ r ∈ reports, P r.diagnostics) ↔ ∀ path ∈ paths, P (compileFile scripts path).diagnostics := by
    have known := congrArg (fun ds : List Diagnostics => ∀ d ∈ ds, P d) same
    simpa only [List.forall_mem_map] using Iff.of_eq known
  have mild := (diagnosed fun d => ∀ e ∈ d.entries, e.fatal = false).mpr clean
  obtain ⟨err, out⟩ := Report.pages_streams (fun r mem => (account r mem).2) mild []
  have onErr_eq : onErr = reports.flatMap (·.diagnostics.render) := by
    simp only [onErr, ran]
    exact err
  have onOut_eq : onOut = Report.spaced reports (Report.verdicts [] reports) := by
    simp only [onOut, ran]
    exact out
  refine ⟨reports, behind, runs, same, by rw [ran], by rw [ran], onErr_eq, onOut_eq, ?_, ?_⟩
  · rw [← diagnosed (·.entries = []), onErr_eq, onOut_eq]
    exact Report.verdicts_alone_iff mild []
  · rintro load words a loaded parsed rfl loads flagged
    exact runWith_eq_runFiles parsed loads flagged traffic

/-- A printed text is not shown, and a failed route is known from the verdict only. -/
theorem formatted_verdicts_calm :
    let config : RunConfig := ⟨{ silent := true, quiet := true, formatted := true }, .default⟩
    let transport : Transport Nat := fun _ n => (Route.noConnection, n + 1)
    let files : Files := fun path =>
      if path = "a" then .file (Chunk.textBytes "print \"x\"")
      else if path = "b" then .file (Chunk.textBytes "get \"/b\"")
      else .missing
    let c := runFiles (config.host transport) files ["a", "b"] 0 0 ⟨0, []⟩
    (RunConfig.make { formatted := true } (.dict []) = .ok config ∧
      config.modes.formatted = true ∧ config.modes.blocking = false ∧
      (config.host transport).service.Answers ∧
      ∀ path ∈ ["a", "b"], ∀ d ∈ (compileFile files path).diagnostics.entries,
        d.fatal = false) ∧
    c.exit.toOption = some 0 ∧ c.lines = [.out "true", .out "false"] ∧
    ∃ reports, c.lines.filter (·.stream = .err) = [] ∧
      c.lines.filter (·.stream = .out) = Report.verdicts [] reports := by
  intro config transport files c
  have made : RunConfig.make { formatted := true } (.dict []) = .ok config := rfl
  have answers : (config.host transport).service.Answers := fun _ _ _ _ => ⟨none, rfl, rfl⟩
  have silent_a : (compileFile files "a").diagnostics.entries = [] := by decide +kernel
  have silent_b : (compileFile files "b").diagnostics.entries = [] := by decide +kernel
  have calm : ∀ path ∈ ["a", "b"], (compileFile files path).diagnostics.entries = [] := by
    simp only [List.forall_mem_cons, silent_a, silent_b, true_and]
    exact nofun
  have clean : ∀ path ∈ ["a", "b"], ∀ d ∈ (compileFile files path).diagnostics.entries,
      d.fatal = false := by
    intro path mem d recorded
    rw [calm path mem] at recorded
    cases recorded
  obtain ⟨reports, -, -, -, -, -, -, -, alone, -⟩ :=
    formatted_verdicts made rfl rfl transport answers files clean ⟨0, []⟩
  refine ⟨⟨made, rfl, rfl, answers, clean⟩, by decide +kernel, by decide +kernel, reports, ?_⟩
  exact alone.mpr calm

/-- The warning of a script is written, and a blank line is between it and the verdict. -/
theorem formatted_verdicts_warned :
    let config : RunConfig := ⟨{ silent := true, quiet := true, formatted := true }, .default⟩
    let transport : Transport Nat := fun _ n => (Route.noConnection, n + 1)
    let files : Files := fun path =>
      if path = "a.goud" then .file (Chunk.textBytes "print \"\"\n") else .missing
    let c := runFiles (config.host transport) files ["a.goud"] 0 0 ⟨0, []⟩
    RunConfig.make { formatted := true } (.dict []) = .ok config ∧
      (config.host transport).service.Answers ∧
      (∀ d ∈ (compileFile files "a.goud").diagnostics.entries, d.fatal = false) ∧
      c.exit.toOption = some 0 ∧
      c.lines = [.err "warning: a.goud:1:7 Empty string", .out "", .out "true"] ∧
      ¬(c.lines.filter (·.stream = .err) = [] ∧
        c.lines.filter (·.stream = .out) = [.out "true"]) := by
  intro config transport files c
  have warned : (compileFile files "a.goud").diagnostics.entries = [.emptyString ⟨1, 7⟩] := by
    decide +kernel
  have written : c.lines = [.err "warning: a.goud:1:7 Empty string", .out "", .out "true"] := by
    decide +kernel
  refine ⟨rfl, fun _ _ _ _ => ⟨none, rfl, rfl⟩, fun d mem => ?_, by decide +kernel, written, ?_⟩
  · rw [warned, List.mem_singleton] at mem
    rw [mem]
    rfl
  · rw [written]
    decide

end Command

end RouteScript
