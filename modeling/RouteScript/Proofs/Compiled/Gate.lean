import RouteScript.Proofs.Compiled.Execution
import RouteScript.Proofs.Lexer.Invariants
import RouteScript.Proofs.Lexer.Truncation
import RouteScript.Proofs.Parser.Acceptance

/-!
The gate between compiling a script and running it.

A host looks at the trigger of the sink and at nothing else. That is enough: wherever a
script comes from, lexer and parser leave a sink that is triggered exactly if it holds an
error (`compileChunks_sound`, `compileFile_sound`). So a script with an error is refused
and the service is not asked for anything, and one without is executed and goes through
unless a failed route ends it (`Gated`).
-/

namespace RouteScript

open Script RouteScript.Parser

/-! ### Compiled scripts -/

/-- The parser records errors only. -/
theorem compileTokens_errors (tokens : List Token) (d : Diagnostics) :
    ∃ found : List Diagnostic, (∀ e ∈ found, e.fatal = true) ∧
      (compileTokens tokens d).diagnostics = found.foldl Sink.push d := by
  obtain ⟨q, parsed⟩ := parse_isOk { rest := tokens, diagnostics := d }
  obtain ⟨blocks, names, found, account, -⟩ := parse_blocks parsed
  exact ⟨found, account.fatal, by simp [compileTokens, finish_eq parsed, account.diagnostics]⟩

theorem compileTokens_sound (tokens : List Token) {d : Diagnostics} (sound : d.Sound) :
    (compileTokens tokens d).diagnostics.Sound := by
  obtain ⟨found, fatal, eq⟩ := compileTokens_errors tokens d
  rw [eq]
  exact sound.foldl_push fatal

theorem compileChunks_sound (chunks : List Chunk) (file : String) :
    (compileChunks chunks file).diagnostics.Sound :=
  compileTokens_sound _ (Lexer.invariant_sound.scan (Lexer.sound_refill rfl))

theorem compileFile_sound (scripts : Scripts) (path : String) :
    (compileFile scripts path).diagnostics.Sound := by
  unfold compileFile
  split
  · exact compileChunks_sound _ path
  -- No file is an error, whatever there is in its place.
  all_goals exact Diagnostics.sound_push _ rfl

/-- The parser keeps what the lexer recorded. -/
theorem mem_compileChunks {chunks : List Chunk} {file : String} {d : Diagnostic}
    (recorded : d ∈ (Lexer.scan chunks file).2.diagnostics.entries) :
    d ∈ (compileChunks chunks file).diagnostics.entries := by
  obtain ⟨found, -, eq⟩ := compileTokens_errors (Lexer.scan chunks file).1
    (Lexer.scan chunks file).2.diagnostics
  have compiled : (compileChunks chunks file).diagnostics =
      found.foldl Sink.push (Lexer.scan chunks file).2.diagnostics := eq
  rw [compiled, entries_foldl_push]
  exact List.mem_append_left _ recorded

/-- A script that cannot be read to its end has an error, which gives the lines read so far. -/
theorem compileChunks_of_failure (lines : List (List UInt8)) (file : String) :
    .unreadableLine (lines.countP (· ≠ [])) ∈
      (compileChunks (Chunk.ofLines lines true) file).diagnostics.entries := by
  obtain ⟨-, -, ⟨front, back, -, noted⟩, -⟩ := Lexer.scan_failure lines [] file
  refine mem_compileChunks ?_
  rw [Chunk.ofLines, if_pos rfl, noted]
  exact List.mem_append_right _ List.mem_cons_self

/-- A source that does not break off has a result. -/
theorem compileChunks?_eq {chunks : List Chunk} (whole : .interrupt ∉ chunks) (file : String) :
    compileChunks? chunks file = .ok (compileChunks chunks file) := by
  rw [compileChunks?, Lexer.scan?_eq whole]
  rfl

/-! ### How a run ends -/

/-- A service behind which no failure is passed on: every request has a reply or none, and the
status of a reply can be written. -/
def Service.Answers {σ ε : Type} (service : Service σ ε) : Prop :=
  ∀ method url body s, ∃ reply, (service.send method url body s).1 = .ok reply ∧
    service.unwritable? reply = none

namespace Machine

variable {σ ε : Type} {service : Service σ ε}

theorem step_fault (answers : service.Answers) (i : Instruction) (m : Machine) (s : σ) :
    (step service i m s).fault = none := by
  rcases request_or_step_eq service i m with ⟨r, rfl⟩ | ⟨stack, bindings, recorded, -, eq⟩
  · rcases step_request service r m s with ⟨-, eq⟩ | ⟨o, -, ⟨e, failed, -⟩ | ⟨reply, -, -, eq⟩⟩
    · rw [eq]
    · obtain ⟨reply, answered, written⟩ := answers r.method o.url o.body s
      rw [answered] at failed
      rcases failed with failed | ⟨_, same, passed⟩
      · cases failed
      · cases same
        rw [written] at passed
        cases passed
    · rw [eq]
  · rw [eq]

/-- A run is aborted if the machine blocks and a route has failed by its end, and goes
through otherwise. -/
theorem runFrom_ending (answers : service.Answers) (program : Program) {m : Machine}
    (clean : m.blocking = true → m.err = 0) (s : σ) :
    ((runFrom (step service) program m s).ending = .aborted ∧ m.blocking = true ∧
        (runFrom (step service) program m s).machine.err ≠ 0) ∨
      ((runFrom (step service) program m s).ending = .finished ∧
        (m.blocking = true → (runFrom (step service) program m s).machine.err = 0)) := by
  induction program generalizing m s with
  | nil => exact .inr ⟨rfl, clean⟩
  | cons i rest ih =>
    let p := step service i m s
    let moved : Machine := { p.machine with cursor := p.machine.cursor + 1 }
    have blocking : moved.blocking = m.blocking := congrArg (·.2.2) (step_modes service i m s)
    have unfolded : runFrom (step service) (i :: rest) m s =
        if moved.blocking && moved.err != 0 then ⟨.aborted, moved, p.service, [p.machine]⟩
        else
          let r := runFrom (step service) rest moved p.service
          { r with trace := p.machine :: r.trace } := by
      rw [runFrom]
      simp only [step_fault answers i m s]
      rfl
    rw [unfolded]
    split
    · next stop =>
      have failed : moved.blocking = true ∧ moved.err ≠ 0 := by simpa using stop
      exact .inl ⟨rfl, blocking.symm.trans failed.1, failed.2⟩
    · next going =>
      have later := ih (m := moved) (by simpa using going) p.service
      rw [blocking] at later
      exact later

theorem run_ending (answers : service.Answers) (program : Program) {m : Machine} (fresh : m.err = 0)
    (s : σ) :
    ((run service program m s).ending = .aborted ∧ m.blocking = true ∧
        (run service program m s).machine.err ≠ 0) ∨
      ((run service program m s).ending = .finished ∧
        (m.blocking = true → (run service program m s).machine.err = 0)) :=
  runFrom_ending answers program (m := { m with cursor := 0 }) (fun _ => fresh) s

end Machine

/-! ### The gate -/

namespace Host

variable {σ ε : Type}

/-- What running a script comes to, from what was recorded for it. -/
structure Gated (h : Host σ ε) (c : Compiled) (s : σ) (x : Except ε Report × σ) : Prop where
  /-- With an error nothing is executed, and the state of the service stays as it was. -/
  refused : (∃ d ∈ c.diagnostics.entries, d.fatal = true) →
    x = (.ok { status := .error, diagnostics := c.diagnostics, ok := 0, err := 0, effects := [],
               aborted := false, executed := false }, s)
  /-- Without one the script is executed, and it goes through unless it was aborted. -/
  executed : (∀ d ∈ c.diagnostics.entries, d.fatal = false) → h.service.Answers →
    ∃ r, x.1 = .ok r ∧ r.executed = true ∧ r.diagnostics = c.diagnostics ∧
      (r.status = .success ↔ r.aborted = false) ∧
      (r.aborted = true ↔ h.modes.blocking = true ∧ r.err ≠ 0)

/-- A host that gets the counts of its runs gates every script whose sink is sound. -/
theorem execute_gated (h : Host σ ε) (counts : h.counts = true) {c : Compiled}
    (sound : c.diagnostics.Sound) (s : σ) : h.Gated c s (h.execute c s) where
  refused error := h.execute_refused (sound.triggered_iff.mpr error) s
  executed mild answers := by
    rw [execute_ran counts (sound.not_triggered mild)]
    have fresh : h.machine.err = 0 := rfl
    rcases Machine.run_ending answers c.program fresh s with
      ⟨aborted, blocking, failed⟩ | ⟨finished, passed⟩
    · simp only [Report.ofRun, aborted]
      exact ⟨_, rfl, rfl, rfl, by simp [Report.ofMachine], fun _ => ⟨blocking, failed⟩,
        fun _ => rfl⟩
    · simp only [Report.ofRun, finished]
      refine ⟨_, rfl, rfl, rfl, by simp [Report.ofMachine], ?_⟩
      constructor
      · intro aborted
        cases aborted
      · intro blocked
        exact absurd (passed blocked.1) blocked.2

end Host

/-- Whatever a script is read from, its sink is triggered exactly if it holds an error. So under
any configuration and over any transport a script with an error has no effect and nothing is
sent for it, and one without is executed. One that fails while it is read has an error. -/
theorem host_runs_clean_scripts_only {τ : Type} (config : RunConfig) (transport : Transport τ)
    (traffic : Traffic τ) :
    let host := config.host transport
    (∀ chunks file, .interrupt ∉ chunks → ∃ c, compileChunks? chunks file = .ok c ∧
      (c.diagnostics.triggered = true ↔ ∃ d ∈ c.diagnostics.entries, d.fatal = true) ∧
      host.Gated c traffic (host.execute c traffic)) ∧
    (∀ text name, host.Gated (compileText text name) traffic (host.runText text name traffic)) ∧
    (∀ (scripts : Scripts) path,
      host.Gated (compileFile scripts path) traffic (host.runFile scripts path traffic)) ∧
    ∀ (scripts : Scripts) path lines, scripts path = .file lines true →
      .unreadableLine (lines.countP (· ≠ [])) ∈
        (compileFile scripts path).diagnostics.entries := by
  intro host
  refine ⟨fun chunks file whole => ?_, fun text name => ?_, fun scripts path => ?_,
    fun scripts path lines fails => ?_⟩
  · have sound := compileChunks_sound chunks file
    exact ⟨_, compileChunks?_eq whole file, sound.triggered_iff,
      host.execute_gated rfl sound traffic⟩
  · exact host.execute_gated rfl (compileChunks_sound _ name) traffic
  · exact host.execute_gated rfl (compileFile_sound scripts path) traffic
  · simp only [compileFile, fails]
    exact compileChunks_of_failure lines path

/-- A script with a warning is executed, though its request fails. One that ends too soon is not,
though its request is complete, and neither is the file that has the same request and cannot be
read behind it. -/
theorem host_runs_clean_scripts_only_warned :
    let transport : Transport Nat := fun _ n => (.failure .connection "", n + 1)
    let host := RunConfig.default.host transport
    let traffic : Traffic Nat := { transport := 0 }
    let chunks : List Chunk := [.data (Chunk.textBytes "get \"/a\"\n"), .failure]
    let scripts : Scripts := fun _ => .file [Chunk.textBytes "get \"/a\"\n"] true
    (∃ r, (host.runText "get \"/a\"\nprint \"\"" "s" traffic).1 = .ok r ∧ r.executed = true ∧
      r.status = .success) ∧
    (∃ r, host.runText "get \"/a\"\nprint" "s" traffic = (.ok r, traffic) ∧ r.executed = false) ∧
    (∃ c, compileChunks? chunks "s" = .ok c ∧ c.diagnostics.triggered = true) ∧
    ∃ r, host.runFile scripts "s" traffic = (.ok r, traffic) ∧ r.executed = false ∧
      r.diagnostics.entries = [.unreadableLine 1] := by
  intro transport host traffic chunks scripts
  obtain ⟨sound, gated, files, unread⟩ :=
    host_runs_clean_scripts_only RunConfig.default transport traffic
  have answers : host.service.Answers := fun _ _ _ _ => ⟨none, rfl, rfl⟩
  obtain ⟨r, ran, executed, -, status, aborted⟩ :=
    (gated "get \"/a\"\nprint \"\"" "s").executed (by decide +kernel) answers
  have free : r.aborted = false := by
    rw [Bool.eq_false_iff, Ne, aborted]
    exact nofun
  obtain ⟨c, compiled, triggered, -⟩ := sound chunks "s" (by decide +kernel)
  have same : .ok c = Except.ok (compileChunks chunks "s") :=
    compiled.symm.trans (compileChunks?_eq (by decide +kernel) "s")
  cases same
  have broken := unread scripts "s" _ rfl
  refine ⟨⟨r, ran, executed, status.mpr free⟩, ⟨_, (gated _ "s").refused ?_, rfl⟩,
    ⟨_, compiled, triggered.mpr ⟨_, broken, rfl⟩⟩,
    ⟨_, (files scripts "s").refused ⟨_, broken, rfl⟩, rfl, ?_⟩⟩
  · decide +kernel
  · decide +kernel

end RouteScript
