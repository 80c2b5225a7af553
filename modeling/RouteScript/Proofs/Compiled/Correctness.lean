import RouteScript.Proofs.Machine.Runs
import RouteScript.Proofs.Meaning
import RouteScript.Proofs.Parser.Acceptance

/-!
Compiled scripts do what they mean.

The code of an expression pushes its value (`play_expression`), over whatever is on
the stack: a binding leaves its value there, and a quiet machine what it was to
print, so that the stack grows with the script. Names, counts, effects and requests
are those of the evaluation after each statement (`Follows.statement`).

`run_compileText_eq_evaluate` is about the whole way from a text to the end of a run,
with every boundary between two statements.
-/

namespace RouteScript

open Script RouteScript.Parser

/-- A machine shows what a script has done. -/
structure Machine.Shows {σ : Type} (m : Machine) (c : Conduct σ) : Prop where
  values : m.bindings = c.values
  ok : m.ok = c.ok
  err : m.err = c.err
  effects : m.effects = c.effects

namespace Machine

variable {σ : Type}

/-! ### Expressions -/

section Values

variable {ε : Type}

theorem step_operand (service : Service σ ε) {o : Operand} {m : Machine} {v : String}
    (value : o.value? m.bindings = some v) (s : σ) :
    step service o.code m s = ⟨{ m with stack := v :: m.stack }, s, none⟩ := by
  cases o with
  | text t =>
    cases value
    rfl
  | name n =>
    simp only [Operand.value?] at value
    simp only [step, Operand.code, value]

/-- The code of an expression pushes its value and does nothing else. -/
theorem steps_expression (service : Service σ ε) {e : Expression} {m : Machine} {v : String}
    (value : e.value? m.bindings = some v) (s : σ) :
    steps service e.code m s = ⟨{ m with stack := v :: m.stack }, s, none⟩ := by
  induction e generalizing m v with
  | single o =>
    rw [code_single, steps_cons service (step_operand service value s)]
    rfl
  | join o rest ih =>
    simp only [Expression.value?, Option.bind_eq_bind, Option.pure_def,
      Option.bind_eq_some_iff, Option.some.injEq] at value
    obtain ⟨first, here, others, later, rfl⟩ := value
    have pushed := ih (m := { m with stack := first :: m.stack }) later
    rw [code_join, steps_cons service (step_operand service here s),
      steps_append service pushed]
    rfl

variable (service : Service σ Empty)

theorem play_expression {e : Expression} {m : Machine} {v : String}
    (value : e.value? m.bindings = some v) (s : σ) :
    ∃ cursor, play service e.code (m, s) = ({ m with stack := v :: m.stack, cursor }, s) := by
  obtain ⟨cursor, played⟩ := play_steps service (m := m) (s := s) (request_not_mem_code e) m.cursor
  rw [steps_expression service value] at played
  exact ⟨cursor, played⟩

/-- The code of an optional body pushes its value, if there is one. -/
theorem play_body {body : Option Expression} {m : Machine} {b : Option String}
    (value : bodyValue? m.bindings body = some b) (s : σ) :
    body.isSome = b.isSome ∧ ∃ cursor, play service (bodyCode body) (m, s) =
      ({ m with stack := b.toList ++ m.stack, cursor }, s) := by
  cases body with
  | none =>
    cases value
    exact ⟨rfl, m.cursor, rfl⟩
  | some e =>
    simp only [bodyValue?, Option.map_eq_some_iff] at value
    obtain ⟨v, h, rfl⟩ := value
    exact ⟨rfl, play_expression service h s⟩

end Values

/-! ### Requests -/

theorem failure?_eq (o : Operands) (reply : Option Reply) :
    failure? o reply = complaint? o.status o.expected reply := by
  obtain ⟨expected, status, body, url, below⟩ := o
  cases reply with
  | none => rfl
  | some reply => cases expected <;> simp [failure?, complaint?]

/-- A request is counted, and complained about, as it is in the evaluation. -/
theorem settle_shows {m : Machine} {c : Conduct σ} (shown : m.Shows c) (r : RequestForm)
    (o : Operands) (reply : Option Reply) :
    (m.settle r o reply).Shows
      (c.count m.silent ⟨r.method, o.url, o.body⟩ (complaint? o.status o.expected reply)) := by
  obtain ⟨values, ok, err, effects⟩ := shown
  unfold settle
  rw [failure?_eq]
  cases complaint? o.status o.expected reply with
  | none => exact ⟨values, by simp [Conduct.count, ok], err, effects⟩
  | some reason =>
    unfold routeError Conduct.count
    cases m.silent with
    | true => exact ⟨values, ok, by simp [err], effects⟩
    | false =>
      refine ⟨values, ok, by simp [emit, Conduct.tell, err], ?_⟩
      simpa [Machine.effects, emit, Conduct.tell] using effects

/-! ### Statements -/

/-- A machine and its service are where the evaluation is. -/
structure Follows (st : Machine × σ × List Call) (c : Conduct σ) : Prop where
  shown : st.1.Shows c
  server : st.2 = (c.server, c.calls)

variable {server : Server σ} {st : Machine × σ × List Call} {m : Machine} {s : σ × List Call}
  {c : Conduct σ}

/-- The evaluation knows no stack. -/
theorem Follows.restack (follows : Follows (m, s) c) (stack : List String) (cursor : Nat) :
    Follows ({ m with stack, cursor }, s) c :=
  ⟨⟨follows.shown.values, follows.shown.ok, follows.shown.err, follows.shown.effects⟩,
    follows.server⟩

/-- A binding gives the name the value on top. -/
theorem Follows.bind (service : Service (σ × List Call) Empty) (follows : Follows st c)
    {v : String} (top : st.1.stack.head? = some v) (name : String) :
    Follows (turn service st (.bindVariable name)) (c.bind name v) := by
  obtain ⟨m, s⟩ := st
  obtain ⟨below, stack⟩ := List.head?_eq_some_iff.mp top
  simp only at stack
  obtain ⟨⟨values, ok, err, effects⟩, server⟩ := follows
  simp only [turn, step, stack]
  exact ⟨⟨by simp [Conduct.bind, ← values], ok, err, effects⟩, server⟩

/-- A print shows the value on top, unless the machine is quiet. -/
theorem Follows.print (service : Service (σ × List Call) Empty) (follows : Follows st c)
    {v : String} (top : st.1.stack.head? = some v) :
    Follows (turn service st .print) (if st.1.quiet then c else c.tell "stdout" v) := by
  obtain ⟨m, s⟩ := st
  obtain ⟨below, stack⟩ := List.head?_eq_some_iff.mp top
  simp only at stack
  obtain ⟨⟨values, ok, err, effects⟩, server⟩ := follows
  cases quiet : m.quiet with
  | true =>
    simp only [turn, step, stack, quiet]
    exact ⟨⟨values, ok, err, effects⟩, server⟩
  | false =>
    simp only [turn, step, stack, quiet]
    refine ⟨⟨values, ok, err, ?_⟩, server⟩
    simpa [Machine.effects, emit, Conduct.tell] using effects

/-- A request with its operands on top is the one that is asked, and its reply is
there for a capture. -/
theorem Follows.request (server : Server σ) (follows : Follows (m, s) c) {r : RequestForm}
    {o : Operands} (taken : r.operands? m.stack = some o) :
    let call : Call := ⟨r.method, o.url, o.body⟩
    let (reply, asked) := c.ask server call
    let st := turn server.noting.service (m, s) (.request r)
    Follows st (asked.count m.silent call (complaint? o.status o.expected reply)) ∧
      (r.use = .capture → st.1.stack.head? = some ((reply.map (·.text)).getD "")) := by
  intro call
  obtain ⟨shown, rfl⟩ := follows
  let waiting : Machine := { m with stack := o.url :: o.below }
  have same : waiting.Shows (c.ask server call).2 :=
    ⟨shown.values, shown.ok, shown.err, shown.effects⟩
  have settled := settle_shows same r o (c.ask server call).1
  have executed : turn server.noting.service (m, c.server, c.calls) (.request r) =
      ({ waiting.settle r o (c.ask server call).1 with
          cursor := (waiting.settle r o (c.ask server call).1).cursor + 1 },
        (c.ask server call).2.server, (c.ask server call).2.calls) := by
    have answered : server.noting.service.send r.method o.url o.body (c.server, c.calls) =
        ((.ok (c.ask server call).1 : Except Empty _),
          (c.ask server call).2.server, (c.ask server call).2.calls) := rfl
    simp only [turn, step, request, taken, answered, Service.unwritable?_eq_none]
    rfl
  simp only [executed]
  constructor
  · refine ⟨⟨settled.values, settled.ok, settled.err, settled.effects⟩, ?_⟩
    rw [Conduct.count_server]
  · intro captured
    simp [settle, captured]

/-- The end of a request, with the values of the other clauses on the stack. -/
theorem Follows.reaction (server : Server σ) (follows : Follows (m, s) c) {reaction : Reaction}
    {expected : Option String} (value : reaction.value? c.values = some expected)
    {status url : String} {body : Option String} {below : List String}
    (stack : m.stack = status :: (body.toList ++ url :: below)) (method : Method) :
    let call : Call := ⟨method, url, body⟩
    let (reply, asked) := c.ask server call
    Follows (play server.noting.service (reaction.code method body.isSome) (m, s))
      (reaction.keep reply (asked.count m.silent call (complaint? status expected reply))) := by
  cases reaction with
  | ignore =>
    cases value
    have taken : RequestForm.operands? ⟨.discard, method, body.isSome⟩ m.stack =
        some ⟨none, status, body, url, below⟩ := by
      rw [stack]
      cases body <;> rfl
    exact (follows.request server taken).1
  | capture name =>
    cases value
    have taken : RequestForm.operands? ⟨.capture, method, body.isSome⟩ m.stack =
        some ⟨none, status, body, url, below⟩ := by
      rw [stack]
      cases body <;> rfl
    obtain ⟨asked, top⟩ := follows.request server taken
    exact asked.bind server.noting.service (top rfl) name
  | compare e =>
    simp only [Reaction.value?, Option.map_eq_some_iff] at value
    obtain ⟨v, value, rfl⟩ := value
    rw [← follows.shown.values] at value
    obtain ⟨cursor, pushed⟩ := play_expression server.noting.service value s
    have taken : RequestForm.operands? ⟨.compare, method, body.isSome⟩ (v :: m.stack) =
        some ⟨some v, status, body, url, below⟩ := by
      rw [stack]
      cases body <;> rfl
    simp only [Reaction.code, play_append, pushed]
    exact ((follows.restack (v :: m.stack) cursor).request server taken).1

/-- The code of a statement does what the statement means. -/
theorem Follows.statement (server : Server σ) (follows : Follows (m, s) c) {a : Statement}
    {c' : Conduct σ} (meaning : a.evaluate server m.silent m.quiet c = some c') :
    Follows (play server.noting.service a.code (m, s)) c' := by
  cases a with
  | assign name e =>
    simp only [Statement.evaluate, Option.bind_eq_bind, Option.pure_def, Option.bind_eq_some_iff,
      Option.some.injEq] at meaning
    obtain ⟨v, value, rfl⟩ := meaning
    rw [← follows.shown.values] at value
    obtain ⟨cursor, pushed⟩ := play_expression server.noting.service value s
    rw [Statement.code, play_append, pushed]
    exact (follows.restack (v :: m.stack) cursor).bind server.noting.service rfl name
  | print e =>
    simp only [Statement.evaluate, Option.bind_eq_bind, Option.pure_def, Option.bind_eq_some_iff,
      Option.some.injEq] at meaning
    obtain ⟨v, value, rfl⟩ := meaning
    rw [← follows.shown.values] at value
    obtain ⟨cursor, pushed⟩ := play_expression server.noting.service value s
    rw [Statement.code, play_append, pushed]
    exact (follows.restack (v :: m.stack) cursor).print server.noting.service rfl
  | request method url body status reaction =>
    simp only [Statement.evaluate, Option.bind_eq_bind, Option.pure_def, Option.bind_eq_some_iff,
      Option.some.injEq] at meaning
    obtain ⟨u, hurl, b, hbody, expected, hreaction, rfl⟩ := meaning
    rw [← follows.shown.values] at hurl hbody
    obtain ⟨cursor, pushed⟩ := play_expression server.noting.service hurl s
    let m₁ : Machine := { m with stack := u :: m.stack, cursor }
    obtain ⟨clause, cursor', pushed'⟩ := play_body (m := m₁) server.noting.service hbody s
    rw [Statement.code, play_append, play_append, play_append, pushed, pushed', clause]
    exact (follows.restack (status.getD "200" :: (b.toList ++ u :: m.stack)) (cursor' + 1)).reaction
      server hreaction rfl method

/-- The code of a script does what the script means. -/
theorem Follows.script (server : Server σ) {script : List Statement} (follows : Follows (m, s) c)
    {c' : Conduct σ} (meaning : evaluate server m.silent m.quiet script c = some c') :
    Follows (play server.noting.service (script.flatMap Statement.code) (m, s)) c' := by
  induction script generalizing m s c with
  | nil =>
    cases meaning
    exact follows
  | cons a rest ih =>
    simp only [evaluate, List.foldlM_cons, Option.bind_eq_bind, Option.bind_eq_some_iff] at meaning
    obtain ⟨c₁, first, later⟩ := meaning
    have follows₁ := follows.statement server first
    have modes := play_modes server.noting.service a.code (m, s)
    rw [List.flatMap_cons, play_append]
    generalize play server.noting.service a.code (m, s) = st₁ at follows₁ modes ⊢
    simp only [Machine.modes, Prod.mk.injEq] at modes
    apply ih follows₁
    rw [modes.1, modes.2.1]
    exact later

end Machine

/-! ### From the text to the end of the run -/

open Machine

/-- Only errors trigger a sink. -/
theorem triggered_foldl_push (found : List Diagnostic) (d : Diagnostics) :
    (found.foldl Sink.push d).triggered = (d.triggered || !found.isEmpty) := by
  induction found generalizing d with
  | nil => simp
  | cons e rest ih => simp [ih, Sink.push]

/-- A text that compiles without an error is the script of its tokens, and the
program is the translation of that script. -/
theorem compileText_clean {text file : String}
    (clean : (compileText text file).diagnostics.triggered = false) :
    ∃ script, Covers script (Lexer.scan (Chunk.ofText text) file).1 ∧
      (compileText text file).program = (script.map (·.statement)).flatMap Statement.code := by
  let tokens := (Lexer.scan (Chunk.ofText text) file).1
  let lexed := (Lexer.scan (Chunk.ofText text) file).2.diagnostics
  have whole : compileText text file = compileTokens tokens lexed := rfl
  obtain ⟨blocks, found, -, diagnostics, -, script⟩ := compileTokens_blocks tokens lexed
  rw [whole, diagnostics, triggered_foldl_push] at clean
  have none : found = [] := by
    cases found with
    | nil => rfl
    | cons e rest => simp at clean
  obtain ⟨script, covers⟩ := script none
  exact ⟨script, covers, by rw [whole, compileTokens_of_covers covers]⟩

/-- The translation of a script in scope does what the script means, and is where the
evaluation is behind each statement. -/
theorem run_script {σ : Type} {script : List Statement} (scope : InScope script)
    (server : Server σ) (silent quiet : Bool) (s : σ) :
    let m : Machine := { silent, quiet }
    let r := run (ε := Empty) server.noting.service (script.flatMap Statement.code) m (s, [])
    (∃ c, evaluate server silent quiet script { server := s } = some c ∧
      r.ending = .finished ∧ r.machine.Shows c ∧ r.service = (c.server, c.calls)) ∧
    ∀ done rest, script = done ++ rest →
      ∃ c, evaluate server silent quiet done { server := s } = some c ∧
        (r.before m (done.flatMap Statement.code).length).Shows c := by
  intro m r
  have start : Follows ({ m with cursor := 0 }, (s, [])) ({ server := s } : Conduct σ) :=
    ⟨⟨rfl, rfl, rfl, rfl⟩, rfl⟩
  have nothing : Known [] ({ server := s } : Conduct σ).values := nofun
  obtain ⟨c, meaning⟩ := evaluate_isSome nothing (inScope_iff.mp scope) server silent quiet
  obtain ⟨ending, final, length⟩ := run_of_not_blocking server.noting.service
    (script.flatMap Statement.code) (s, []) (m := m) rfl
  constructor
  · have follows := start.script server meaning
    rw [← final] at follows
    exact ⟨c, meaning, ending, follows.shown, follows.server⟩
  · rintro done rest rfl
    rw [evaluate, List.foldlM_append, Option.bind_eq_bind, Option.bind_eq_some_iff] at meaning
    obtain ⟨c₁, first, -⟩ := meaning
    have reached : (done.flatMap Statement.code).length ≤ r.trace.length := by
      rw [length, List.flatMap_append, List.length_append]
      exact Nat.le_add_right ..
    have played := before_eq server.noting.service reached
    rw [List.flatMap_append, List.take_left] at played
    refine ⟨c₁, first, ?_⟩
    simp only [r, List.flatMap_append]
    rw [played]
    exact (start.script server first).shown

/-- A text without errors is one script, and its program does what the script means:
it finishes with the names, counts, effects and requests of the evaluation, and is
where the evaluation is behind each statement. -/
theorem run_compileText_eq_evaluate {σ : Type} {text file : String}
    (clean : (compileText text file).diagnostics.triggered = false) (server : Server σ)
    (silent quiet : Bool) (s : σ) :
    let tokens := (Lexer.scan (Chunk.ofText text) file).1
    let m : Machine := { silent, quiet }
    let r := run (ε := Empty) server.noting.service (compileText text file).program m (s, [])
    ∃ script, Covers script tokens ∧
      (∀ other : List Sentence, other.flatMap (·.tokens) = tokens → other = script) ∧
      (∃ c, evaluate server silent quiet (script.map (·.statement)) { server := s } = some c ∧
        r.ending = .finished ∧ r.machine.Shows c ∧ r.service = (c.server, c.calls)) ∧
      ∀ done rest, script.map (·.statement) = done ++ rest →
        ∃ c, evaluate server silent quiet done { server := s } = some c ∧
          (r.before m (done.flatMap Statement.code).length).Shows c := by
  intro tokens m r
  obtain ⟨script, covers, program⟩ := compileText_clean clean
  have runs := run_script covers.scope server silent quiet s
  rw [← program] at runs
  refine ⟨script, covers, ?_, runs⟩
  intro other spelled
  exact sentences_unique (spelled.trans covers.spelled.symm)

/-- A reply is captured and shown. -/
theorem run_compileText_eq_evaluate_capture :
    let text := "get \"/a\" = x print x"
    let server : Server Unit := fun _ _ _ s => (some ⟨200, "hi"⟩, s)
    let r := run (ε := Empty) server.noting.service (compileText text "s").program {} ((), [])
    (compileText text "s").diagnostics.triggered = false ∧ r.ending = .finished ∧
      r.machine.bindings = [("x", "hi")] ∧ r.machine.effects = [⟨"stdout", "hi"⟩] ∧
      r.service = ((), [⟨.get, "/a", none⟩]) := by
  intro text server r
  let at' (i j : Int) : Span := ⟨⟨1, i⟩, ⟨1, j⟩⟩
  let tokens : List Token := [⟨.get, at' 1 4, "get"⟩, ⟨.string, at' 5 9, "/a"⟩,
    ⟨.equals, at' 10 11, "="⟩, ⟨.identifier, at' 12 13, "x"⟩, ⟨.print, at' 14 19, "print"⟩,
    ⟨.identifier, at' 20 21, "x"⟩]
  have scanned : (Lexer.scan (Chunk.ofText text) "s").1 = tokens := by decide +kernel
  have quiet : (Lexer.scan (Chunk.ofText text) "s").2.diagnostics = { file := "s" } := by decide +kernel
  have url : Expression.Spelled (.single (.text "/a")) [⟨.string, at' 5 9, "/a"⟩] :=
    .single (.text (t := ⟨.string, at' 5 9, "/a"⟩) rfl)
  have reaction : Reaction.Spelled (.capture "x")
      [⟨.equals, at' 10 11, "="⟩, ⟨.identifier, at' 12 13, "x"⟩] :=
    .capture (n := ⟨.identifier, at' 12 13, "x"⟩) rfl rfl
  have value : Expression.Spelled (.single (.name "x")) [⟨.identifier, at' 20 21, "x"⟩] :=
    .single (.name (t := ⟨.identifier, at' 20 21, "x"⟩) rfl)
  let ask : Sentence := ⟨_, _, .request (k := ⟨.get, at' 1 4, "get"⟩) rfl url .absent .absent reaction⟩
  let tell : Sentence := ⟨_, _, .print (k := ⟨.print, at' 14 19, "print"⟩) rfl value⟩
  have covers : Covers [ask, tell] tokens := by
    refine ⟨rfl, inScope_iff.mpr ?_⟩
    simp [InScopeOf, ask, tell, Statement.reads, Expression.names, Expression.operands,
      Operand.name?, bodyNames, Reaction.names, Statement.target?, Reaction.target?]
  have clean : (compileText text "s").diagnostics.triggered = false := by
    have whole : compileText text "s" = compileTokens (Lexer.scan (Chunk.ofText text) "s").1
        (Lexer.scan (Chunk.ofText text) "s").2.diagnostics := rfl
    rw [whole, scanned, quiet, compileTokens_of_covers covers]
  obtain ⟨script, -, unique, ⟨c, meaning, ending, shown, service⟩, -⟩ :=
    run_compileText_eq_evaluate clean server false false ()
  cases unique [ask, tell] (covers.spelled.trans scanned.symm)
  cases meaning
  exact ⟨clean, ending, shown.values, shown.effects, service⟩

end RouteScript
