import RouteScript.Command.Run
import RouteScript.Proofs.Compiled.Gate

/-!
What a command writes about its files.

Each file is taken by itself first: `Host.RunsEach` runs file after file as if it were the
only one, on the state of the service that the files before it left. A command writes a page
about every file that goes through, with its warnings, its effects and a tally of all routes
so far (`Report.page`, `Report.tally`). It ends at the first file that does not
(`Report.Stops`), of which it shows what there is without a tally (`Report.lastPage`).

`runFiles_all` says this of files that go through, and `runFiles_until` of files with one that
does not; `RunsEach.split` says that there are no others.
-/

namespace RouteScript

/-! ### One file -/

/-- The warnings, with a blank line behind them if there are any. -/
def Diagnostics.cautions (d : Diagnostics) : List Line :=
  d.warnings.flatMap (·.lines d.file) ++ if d.warnings = [] then [] else [.out ""]

namespace Diagnostics

variable {d : Diagnostics}

/-- A sink with an error writes everything and ends the process. -/
theorem flush_of_error (sound : d.Sound) (error : ∃ e ∈ d.entries, e.fatal = true) :
    d.flush = ⟨d.render, true, { d with entries := [] }⟩ := by
  have triggered := sound.triggered_iff.mpr error
  obtain ⟨e, mem, -⟩ := error
  have some_entry : d.entries.isEmpty = false := by
    rw [List.isEmpty_eq_false_iff]
    exact List.ne_nil_of_mem mem
  simp only [flush, some_entry, triggered, Bool.false_eq_true, if_false, if_true]

theorem cautions_eq (clean : ∀ e ∈ d.entries, e.fatal = false) :
    d.cautions = d.render ++ if d.entries = [] then [] else [.out ""] := by
  have all : d.warnings = d.entries := by
    refine List.filter_eq_self.mpr fun e mem => ?_
    rw [clean e mem]
    rfl
  rw [cautions, all]
  rfl

/-- A sink without one writes its warnings. -/
theorem flush_of_clean (sound : d.Sound) (clean : ∀ e ∈ d.entries, e.fatal = false) :
    d.flush = ⟨d.cautions, false, { d with entries := [] }⟩ := by
  have calm := sound.not_triggered clean
  rw [cautions_eq clean]
  obtain ⟨file, entries, triggered⟩ := d
  simp only at calm
  subst calm
  cases entries with
  | nil => rfl
  | cons e rest =>
    simp only [flush, List.isEmpty_cons, Bool.false_eq_true, if_false, reduceCtorEq]

end Diagnostics

/-- What was recorded for a stream, as a line there. -/
def Effect.onStream (e : Effect) : Line :=
  if e.topic = "stderr" then .err e.message else .out e.message

theorem Effect.line_eq_onStream : Effect.line = Effect.onStream := by
  funext e
  unfold line Stream.ofTopics onStream
  by_cases onErr : e.topic = "stderr"
  · simp only [onErr, if_true]
    rfl
  · have other : [e.topic] ≠ ["stderr"] := fun same => onErr (List.singleton_inj.mp same)
    simp only [onErr, other, if_false]
    rfl

namespace Report

/-- The script has an error, or a failed route ended its run. -/
def Stops (r : Report) : Prop :=
  (∃ d ∈ r.diagnostics.entries, d.fatal = true) ∨ r.aborted = true

/-- The routes of several scripts that passed. -/
def okTotal (reports : List Report) : Nat := reports.foldl (fun n r => n + r.ok) 0

/-- The routes of several scripts that failed. -/
def errTotal (reports : List Report) : Nat := reports.foldl (fun n r => n + r.err) 0

theorem okTotal_snoc (reports : List Report) (r : Report) :
    okTotal (reports ++ [r]) = okTotal reports + r.ok := by
  rw [okTotal, List.foldl_append]
  rfl

theorem errTotal_snoc (reports : List Report) (r : Report) :
    errTotal (reports ++ [r]) = errTotal reports + r.err := by
  rw [errTotal, List.foldl_append]
  rfl

/-- What is said about routes of which `ok` passed and `err` failed. -/
def tally (formatted : Bool) (ok err : Nat) : List Line :=
  match formatted, ok, err with
  | true, _, 0 => [.out "true"]
  | true, _, _ + 1 => [.out "false"]
  | false, 0, 0 => []
  | false, ok + 1, 0 => [.out s!"Done ! {ok + 1} tests have been made with no errors."]
  | false, ok, err + 1 =>
    [.out s!"Done ! {ok + (err + 1)} tests have been made.",
     .out s!"{ok} were successful",
     .out s!"{err + 1} came with errors"]

theorem summary_eq_tally (ok err : Nat) (formatted : Bool) :
    Command.summary ok err formatted = tally formatted ok err := by
  cases formatted with
  | true => cases err <;> rfl
  | false =>
    cases err with
    | zero => cases ok <;> rfl
    | succ err => cases ok <;> rfl

/-- What is written about a script behind others: its warnings, its effects on their streams, and
the tally of all routes up to its own. -/
def page (formatted : Bool) (earlier : List Report) (r : Report) : List Line :=
  r.diagnostics.cautions ++ r.effects.map Effect.onStream ++
    tally formatted (okTotal (earlier ++ [r])) (errTotal (earlier ++ [r]))

/-- What is written about several scripts, one after the other. -/
def pages (formatted : Bool) (earlier : List Report) : List Report → List Line
  | [] => []
  | r :: rest => r.page formatted earlier ++ pages formatted (earlier ++ [r]) rest

/-- What is written about a script that stops: all its diagnostics if it was not run, and
otherwise its warnings and its effects. -/
def lastPage (r : Report) : List Line :=
  if r.executed then r.diagnostics.cautions ++ r.effects.map Effect.onStream
  else r.diagnostics.render

end Report

/-! ### Every file by itself -/

namespace Host

variable {σ ε : Type}

/-- The files at some paths are run, each by itself on the state that those before it left. -/
inductive RunsEach (h : Host σ ε) (scripts : Scripts) :
    List String → σ → List Report → σ → Prop where
  | none {s : σ} : RunsEach h scripts [] s [] s
  | next {path : String} {rest : List String} {s s' s'' : σ} {r : Report} {reports : List Report} :
      h.runFile scripts path s = (.ok r, s') → RunsEach h scripts rest s' reports s'' →
      RunsEach h scripts (path :: rest) s (r :: reports) s''

variable {h : Host σ ε} {scripts : Scripts} {path : String} {s s' : σ} {r : Report}

/-- A file that is read the same is run the same. -/
theorem runFile_congr {scripts' : Scripts} (same : scripts' path = scripts path) :
    h.runFile scripts' path s = h.runFile scripts path s := by
  unfold runFile compileFile
  rw [same]

/-- The files at other paths do not matter. -/
theorem RunsEach.congr {scripts' : Scripts} {paths : List String} {reports : List Report}
    (runs : RunsEach h scripts paths s reports s') (same : ∀ p ∈ paths, scripts' p = scripts p) :
    RunsEach h scripts' paths s reports s' := by
  induction runs with
  | none => exact .none
  | next ran _ ih =>
    rw [← runFile_congr (same _ List.mem_cons_self)] at ran
    exact .next ran (ih fun p mem => same p (List.mem_cons_of_mem _ mem))

/-- A service that answers leaves a report on every file. A script with an error was not run and
left the service as it was; any other was run, and went through unless it was aborted. -/
theorem runFile_account (counts : h.counts = true) (answers : h.service.Answers) (scripts : Scripts)
    (path : String) (s : σ) :
    ∃ r s', h.runFile scripts path s = (.ok r, s') ∧
      r.diagnostics = (compileFile scripts path).diagnostics ∧
      ((∃ d ∈ r.diagnostics.entries, d.fatal = true) ∧ r.executed = false ∧ s' = s ∨
        (∀ d ∈ r.diagnostics.entries, d.fatal = false) ∧ r.executed = true ∧
          (r.status = .success ↔ r.aborted = false) ∧
          (r.aborted = true ↔ h.modes.blocking = true ∧ r.err ≠ 0)) := by
  have gated := h.execute_gated counts (compileFile_sound scripts path) s
  by_cases error : ∃ d ∈ (compileFile scripts path).diagnostics.entries, d.fatal = true
  · exact ⟨_, _, gated.refused error, rfl, .inl ⟨error, rfl, rfl⟩⟩
  · have clean : ∀ d ∈ (compileFile scripts path).diagnostics.entries, d.fatal = false := by
      intro d mem
      rw [Bool.eq_false_iff]
      exact fun fatal => error ⟨d, mem, fatal⟩
    obtain ⟨r, eq, executed, same, status, aborted⟩ := gated.executed clean answers
    refine ⟨r, _, Prod.ext eq rfl, same, .inr ⟨?_, executed, status, aborted⟩⟩
    rw [same]
    exact clean

end Host

/-! ### Files behind one another -/

namespace Command

variable {σ ε : Type} {h : Host σ ε} {scripts : Scripts} {path : String} {s s' : σ} {r : Report}

/-- A file with an error ends the command before it is run. -/
theorem runFiles_of_error
    (error : ∃ d ∈ (compileFile scripts path).diagnostics.entries, d.fatal = true)
    (rest : List String) (ok err : Nat) (s : σ) :
    runFiles h scripts (path :: rest) ok err s =
      ⟨(compileFile scripts path).diagnostics.render, .ok 1, s⟩ := by
  rw [runFiles]
  simp only [Diagnostics.flush_of_error (compileFile_sound scripts path) error, if_true]

/-- A file without one is run, and ends the command if its run was aborted. -/
theorem runFiles_of_clean (counts : h.counts = true)
    (ran : h.runFile scripts path s = (.ok r, s'))
    (clean : ∀ d ∈ (compileFile scripts path).diagnostics.entries, d.fatal = false)
    (status : r.status = .success ↔ r.aborted = false) (rest : List String) (ok err : Nat) :
    runFiles h scripts (path :: rest) ok err s =
      let shown := (compileFile scripts path).diagnostics.cautions ++ r.effects.map Effect.onStream
      if r.aborted then ⟨shown, .ok 1, s'⟩
      else (runFiles h scripts rest (ok + r.ok) (err + r.err) s').after
        (shown ++ Report.tally h.modes.formatted (ok + r.ok) (err + r.err)) := by
  have sound := compileFile_sound scripts path
  have calm := sound.not_triggered clean
  have flushed := Diagnostics.flush_of_clean sound clean
  have executed := Host.execute_of_diagnostics counts calm
    (d := { (compileFile scripts path).diagnostics with entries := [] }) calm s
  change h.execute (compileFile scripts path) s = (.ok r, s') at ran
  rw [ran] at executed
  rw [runFiles]
  simp only [flushed, executed, Bool.false_eq_true, if_false, Except.map]
  cases aborted : r.aborted with
  | true => simp only [shown, if_true, Effect.line_eq_onStream]
  | false =>
    have through : r.status ≠ .error := by
      rw [status.mpr aborted]
      exact nofun
    simp only [shown, through, Bool.false_eq_true, if_false, Effect.line_eq_onStream,
      ← Report.summary_eq_tally, Int.natCast_add]

/-- A command ends at a file that stops, whatever files follow. -/
theorem runFiles_stops (counts : h.counts = true) (answers : h.service.Answers)
    (ran : h.runFile scripts path s = (.ok r, s')) (stops : r.Stops) (rest : List String)
    (ok err : Nat) : runFiles h scripts (path :: rest) ok err s = ⟨r.lastPage, .ok 1, s'⟩ := by
  obtain ⟨_, _, ran', same, account⟩ := Host.runFile_account counts answers scripts path s
  cases ran.symm.trans ran'
  rw [same] at account
  rcases account with ⟨error, refused, rfl⟩ | ⟨clean, executed, status, -⟩
  · rw [runFiles_of_error error, Report.lastPage, refused, same]
    rfl
  · have aborted : r.aborted = true := by
      refine stops.resolve_left fun ⟨d, mem, fatal⟩ => ?_
      rw [same] at mem
      rw [clean d mem] at fatal
      cases fatal
    rw [runFiles_of_clean counts ran clean status, Report.lastPage, executed, aborted, same]
    rfl

/-- A file that goes through has its page, and the other files follow. -/
theorem runFiles_next (counts : h.counts = true) (answers : h.service.Answers)
    (ran : h.runFile scripts path s = (.ok r, s')) (goes : ¬r.Stops) (rest : List String)
    (earlier : List Report) :
    runFiles h scripts (path :: rest) (Report.okTotal earlier) (Report.errTotal earlier) s =
      (runFiles h scripts rest (Report.okTotal (earlier ++ [r])) (Report.errTotal (earlier ++ [r]))
        s').after (r.page h.modes.formatted earlier) := by
  obtain ⟨_, _, ran', same, account⟩ := Host.runFile_account counts answers scripts path s
  cases ran.symm.trans ran'
  rcases account with ⟨error, -, -⟩ | ⟨clean, -, status, -⟩
  · exact absurd (.inl error) goes
  · have free : r.aborted = false := by
      rw [Bool.eq_false_iff]
      exact fun aborted => goes (.inr aborted)
    rw [same] at clean
    rw [runFiles_of_clean counts ran clean status, Report.page, Report.okTotal_snoc,
      Report.errTotal_snoc, free, same]
    rfl

/-- Files that go through have their pages, and the other files follow. -/
theorem runFiles_through (counts : h.counts = true) (answers : h.service.Answers)
    {paths : List String} {reports : List Report} (runs : h.RunsEach scripts paths s reports s')
    (go : ∀ r ∈ reports, ¬r.Stops) (rest : List String) (earlier : List Report) :
    runFiles h scripts (paths ++ rest) (Report.okTotal earlier) (Report.errTotal earlier) s =
      (runFiles h scripts rest (Report.okTotal (earlier ++ reports))
        (Report.errTotal (earlier ++ reports)) s').after
          (Report.pages h.modes.formatted earlier reports) := by
  induction runs generalizing earlier with
  | none =>
    rw [List.append_nil]
    rfl
  | @next _ _ _ _ _ r reports ran _ ih =>
    have others : ∀ r ∈ reports, ¬r.Stops := fun r mem => go r (List.mem_cons_of_mem _ mem)
    rw [List.cons_append, runFiles_next counts answers ran (go r List.mem_cons_self),
      ih others (earlier ++ [r]), List.append_assoc, List.singleton_append]
    simp only [Conclusion.after, Report.pages, List.append_assoc]

/-- A command all of whose files go through. -/
theorem runFiles_all (counts : h.counts = true) (answers : h.service.Answers)
    {paths : List String} {reports : List Report} (runs : h.RunsEach scripts paths s reports s')
    (go : ∀ r ∈ reports, ¬r.Stops) :
    runFiles h scripts paths 0 0 s = ⟨Report.pages h.modes.formatted [] reports, .ok 0, s'⟩ := by
  have all := runFiles_through counts answers runs go [] []
  rw [List.append_nil] at all
  refine all.trans ?_
  rw [runFiles, Conclusion.after, List.append_nil]

/-- A command with a file that stops behind others that go through. -/
theorem runFiles_until (counts : h.counts = true) (answers : h.service.Answers)
    {before : List String} {reports : List Report} {here : σ}
    (runs : h.RunsEach scripts before s reports here) (go : ∀ r ∈ reports, ¬r.Stops)
    (ran : h.runFile scripts path here = (.ok r, s')) (stops : r.Stops) (after : List String) :
    runFiles h scripts (before ++ path :: after) 0 0 s =
      ⟨Report.pages h.modes.formatted [] reports ++ r.lastPage, .ok 1, s'⟩ := by
  have first := runFiles_through counts answers runs go (path :: after) []
  rw [runFiles_stops counts answers ran stops] at first
  exact first

end Command

/-- Either all files go through, or there is a first one that stops. -/
theorem Host.RunsEach.split {σ ε : Type} {h : Host σ ε} (counts : h.counts = true)
    (answers : h.service.Answers) (scripts : Scripts) (paths : List String) (s : σ) :
    (∃ reports behind, h.RunsEach scripts paths s reports behind ∧ ∀ r ∈ reports, ¬r.Stops) ∨
      ∃ before path after reports here r behind, paths = before ++ path :: after ∧
        h.RunsEach scripts before s reports here ∧ (∀ r ∈ reports, ¬r.Stops) ∧
        h.runFile scripts path here = (.ok r, behind) ∧ r.Stops := by
  induction paths generalizing s with
  | nil => exact .inl ⟨[], s, .none, nofun⟩
  | cons path rest ih =>
    obtain ⟨r, s', ran, -⟩ := runFile_account counts answers scripts path s
    by_cases stops : r.Stops
    · exact .inr ⟨[], path, rest, [], s, r, s', rfl, .none, nofun, ran, stops⟩
    · have first : ∀ reports : List Report, (∀ r ∈ reports, ¬r.Stops) →
          ∀ x ∈ r :: reports, ¬x.Stops := by
        intro reports go x mem
        rcases List.mem_cons.mp mem with rfl | mem
        · exact stops
        · exact go x mem
      rcases ih s' with ⟨reports, behind, runs, go⟩ |
        ⟨before, path', after, reports, here, r', behind, rfl, runs, go, ran', stops'⟩
      · exact .inl ⟨r :: reports, behind, .next ran runs, first reports go⟩
      · exact .inr ⟨path :: before, path', after, r :: reports, here, r', behind, rfl,
          .next ran runs, first reports go, ran', stops'⟩

end RouteScript
