import RouteScript.Compile
import RouteScript.Proofs.Parser.Blocks

/-!
The parser accepts exactly the grammar.

`parse_blocks` gives one half: a list of tokens that is read without an error is
spelled out by a script in scope. This module has the other half, part by part of
the grammar: tokens that spell out a statement in scope are read to the end of
the statement and without an error (`parseStatement_of_spelled`), and so is a
whole script (`parse_of_spelled`). What was emitted is its translation.

`compileTokens_clean_iff` puts both halves together.
-/

namespace RouteScript.Parser

open Script

variable {p : Parser} {ts r : List Token}

/-! ### Clauses that are spelled out -/

theorem parseBody_of_spelled {body : Option Expression} (spelled : BodySpelled body ts)
    (rest : p.rest = ts ++ r) (next : Past 2 r) (known : ∀ n ∈ bodyNames body, n ∈ p.declared) :
    ∃ q, p.parseBody = .ok (body.isSome, q) ∧ p.Reads ts (bodyCode body) [] [] q := by
  cases spelled with
  | absent =>
    refine ⟨p, ?_, .refl p⟩
    unfold parseBody
    cases r with
    | nil => rw [rest]; rfl
    | cons t r =>
      have other : t.kind ≠ .body := by
        intro kind
        simp [kind, tier] at next
      rw [rest]
      exact if_neg other
  | @present k e ts kind spelled =>
    have first : p.Reads [k] [] [] [] p.next := .next rest
    obtain ⟨q, value, account⟩ := parseValue_of_spelled spelled (first.rest_of_append rest)
      (next.mono (by decide)) known
    obtain ⟨u, us, two⟩ := spelled.append_eq_cons r
    refine ⟨q, ?_, first.trans account⟩
    unfold parseBody
    rw [rest, List.cons_append, two]
    simp only [kind, if_true]
    rw [checkNearEnd_of_two (by rw [rest, List.cons_append, two])]
    exact value

theorem parseStatus_of_spelled {status : Option String} (spelled : StatusSpelled status ts)
    (rest : p.rest = ts ++ r) (next : Past 3 r) :
    p.Reads ts [.pushLiteral (status.getD "200")] [] [] p.parseStatus := by
  cases spelled with
  | absent =>
    have same : p.parseStatus = p.emit (.pushLiteral "200") := by
      unfold parseStatus
      cases r with
      | nil => rw [rest]; rfl
      | cons t r =>
        have other : t.kind ≠ .number := by
          intro kind
          simp [kind, tier] at next
        rw [rest]
        exact if_neg other
    rw [same]
    exact .emit p _
  | @written t kind =>
    have same : p.parseStatus = (p.emit (.pushLiteral t.text)).next := by
      unfold parseStatus
      rw [rest]
      exact if_pos kind
    rw [same]
    exact (Reads.emit p _).trans (.next (p := p.emit _) rest)

theorem parseReplyUse_of_spelled {reaction : Reaction} (method : Method) (hasBody : Bool)
    (spelled : reaction.Spelled ts) (rest : p.rest = ts ++ r) (next : Past 4 r)
    (known : ∀ n ∈ reaction.names, n ∈ p.declared) :
    ∃ q, p.parseReplyUse method hasBody = .ok q ∧
      p.Reads ts (reaction.code method hasBody) reaction.target?.toList [] q := by
  cases spelled with
  | ignore =>
    refine ⟨p.emit (.request ⟨.discard, method, hasBody⟩), ?_, .emit p _⟩
    unfold parseReplyUse
    cases r with
    | nil => rw [rest]; rfl
    | cons t r =>
      rw [rest]
      cases kind : t.kind <;> first | (simp [kind, tier] at next; done) | simp [kind]
  | @capture k n kind identifier =>
    have first : p.Reads [k] [] [] [] p.next := .next rest
    have rest₁ : p.next.rest = n :: r := first.rest_of_append rest
    have emitted := (Reads.emit p.next (.request ⟨.capture, method, hasBody⟩)).thenEmit
      (.bindVariable n.text)
    have bound := emitted.thenDeclare n.text
    refine ⟨_, ?_, first.trans (bound.thenNext (bound.rest_of_append rest₁))⟩
    unfold parseReplyUse
    rw [rest]
    simp only [List.cons_append, kind]
    rw [checkNearEnd_of_two rest]
    simp [bind, Except.bind, current_of_rest rest₁, identifier, pure, Except.pure]
  | @compare k e ts kind spelled =>
    have first : p.Reads [k] [] [] [] p.next := .next rest
    obtain ⟨q, value, account⟩ := parseValue_of_spelled spelled (first.rest_of_append rest)
      (next.mono (by decide)) known
    obtain ⟨u, us, two⟩ := spelled.append_eq_cons r
    refine ⟨_, ?_, first.trans (account.thenEmit (.request ⟨.compare, method, hasBody⟩))⟩
    unfold parseReplyUse
    rw [rest, List.cons_append, two]
    simp only [kind]
    rw [checkNearEnd_of_two (by rw [rest, List.cons_append, two])]
    simp [bind, Except.bind, value, pure, Except.pure]

/-! ### Statements and scripts that are spelled out -/

theorem parseAssignment_of_spelled {n k : Token} {e : Expression}
    (equals : k.kind = .equals) (spelled : e.Spelled ts) (rest : p.rest = n :: k :: ts ++ r)
    (next : Past 4 r) (known : ∀ n ∈ e.names, n ∈ p.declared) :
    ∃ q, p.parseAssignment = .ok q ∧
      p.Reads (n :: k :: ts) (e.code ++ [.bindVariable n.text]) [n.text] [] q := by
  have first : p.Reads [n] [] [] [] p.next := .next rest
  have rest₁ : p.next.rest = k :: (ts ++ r) := first.rest_of_append rest
  have second : p.next.Reads [k] [] [] [] p.next.next := .next rest₁
  obtain ⟨q, value, account⟩ := parseValue_of_spelled spelled (second.rest_of_append rest₁)
    (next.mono (by decide)) known
  obtain ⟨u, us, two⟩ := spelled.append_eq_cons r
  rw [two] at rest₁
  have bound := (account.thenDeclare n.text).thenEmit (.bindVariable n.text)
  refine ⟨_, ?_, first.trans (second.trans bound)⟩
  unfold parseAssignment
  rw [checkNearEnd_of_two rest]
  simp [bind, Except.bind, current_of_rest rest, current_of_rest rest₁, equals,
    checkNearEnd_of_two rest₁, value, pure, Except.pure]

theorem parsePrint_of_spelled {k : Token} {e : Expression} (spelled : e.Spelled ts)
    (rest : p.rest = k :: ts ++ r) (next : Past 4 r) (known : ∀ n ∈ e.names, n ∈ p.declared) :
    ∃ q, p.parsePrint = .ok q ∧ p.Reads (k :: ts) (e.code ++ [.print]) [] [] q := by
  have first : p.Reads [k] [] [] [] p.next := .next rest
  obtain ⟨q, value, account⟩ := parseValue_of_spelled spelled (first.rest_of_append rest)
    (next.mono (by decide)) known
  obtain ⟨u, us, two⟩ := spelled.append_eq_cons r
  rw [List.cons_append, two] at rest
  refine ⟨_, ?_, first.trans (account.thenEmit .print)⟩
  unfold parsePrint
  rw [checkNearEnd_of_two rest]
  simp [bind, Except.bind, value, pure, Except.pure]

theorem parseRequest_of_spelled {k : Token} {m : Method} {url : Expression}
    {body : Option Expression} {status : Option String} {reaction : Reaction}
    {us bs ss rs : List Token} (urlSpelled : url.Spelled us) (bodySpelled : BodySpelled body bs)
    (statusSpelled : StatusSpelled status ss) (reactionSpelled : reaction.Spelled rs)
    (rest : p.rest = k :: (us ++ (bs ++ (ss ++ rs))) ++ r) (next : Past 4 r)
    (known : ∀ n ∈ (Statement.request m url body status reaction).reads, n ∈ p.declared) :
    ∃ q, p.parseRequest m = .ok q ∧
      p.Reads (k :: (us ++ (bs ++ (ss ++ rs))))
        (Statement.request m url body status reaction).code reaction.target?.toList [] q := by
  simp only [Statement.reads, List.mem_append, or_imp, forall_and] at known
  obtain ⟨⟨names, names'⟩, names''⟩ := known
  simp only [List.cons_append, List.append_assoc] at rest
  have third := reactionSpelled.past next
  have second := statusSpelled.past third
  have passed : p.Reads [k] [] [] [] p.next := .next rest
  obtain ⟨p₂, value, account₂⟩ := parseValue_of_spelled urlSpelled (passed.rest_of_append rest)
    (bodySpelled.past second) names
  have upTo₂ := passed.trans account₂
  obtain ⟨p₃, readBody, account₃⟩ := parseBody_of_spelled bodySpelled
    (account₂.rest_of_append (passed.rest_of_append rest)) second
    (fun n hn => upTo₂.mem_declared.mpr (names' n hn))
  have upTo₃ := upTo₂.trans account₃
  have rest₃ : p₃.rest = ss ++ (rs ++ r) :=
    account₃.rest_of_append (account₂.rest_of_append (passed.rest_of_append rest))
  have account₄ := parseStatus_of_spelled statusSpelled rest₃ third
  obtain ⟨q, readReaction, account₅⟩ := parseReplyUse_of_spelled m body.isSome reactionSpelled
    (account₄.rest_of_append rest₃) next
    (fun n hn => (upTo₃.trans account₄).mem_declared.mpr (names'' n hn))
  refine ⟨q, ?_, ?_⟩
  · obtain ⟨u, us', two⟩ := urlSpelled.append_eq_cons (bs ++ (ss ++ (rs ++ r)))
    rw [two] at rest
    unfold parseRequest
    rw [checkNearEnd_of_two rest]
    simp [bind, Except.bind, value, readBody, readReaction]
  · have whole := passed.trans (account₂.trans (account₃.trans (account₄.trans account₅)))
    simpa [Statement.code] using whole

theorem parseStatement_of_spelled {s : Statement} (spelled : s.Spelled ts)
    (rest : p.rest = ts ++ r) (next : Past 4 r) (known : ∀ n ∈ s.reads, n ∈ p.declared) :
    ∃ t us q, p.rest = t :: us ∧ p.parseStatement t = .ok q ∧
      p.Reads ts s.code s.target?.toList [] q := by
  cases spelled with
  | assign kind equals spelled =>
    obtain ⟨q, read, account⟩ := parseAssignment_of_spelled equals spelled rest next known
    refine ⟨_, _, q, rest, ?_, account⟩
    simp [parseStatement, kind, read]
  | print kind spelled =>
    obtain ⟨q, read, account⟩ := parsePrint_of_spelled spelled rest next known
    refine ⟨_, _, q, rest, ?_, account⟩
    simp [parseStatement, kind, read]
  | @request k m _ _ _ _ _ _ _ _ method url body status reaction =>
    obtain ⟨q, read, account⟩ := parseRequest_of_spelled (m := m) url body status reaction rest
      next known
    refine ⟨_, _, q, rest, ?_, account⟩
    cases kind : k.kind <;> rw [kind] at method <;> cases method <;>
      simp [parseStatement, kind, TokenKind.method?, read]

/-- A script in scope is read to its end and without an error. -/
theorem parse_of_spelled {script : List Sentence} (rest : p.rest = script.flatMap (·.tokens))
    (scope : InScopeOf Statement.reads Statement.target? p.declared (script.map (·.statement))) :
    ∃ q names, p.parse = .ok q ∧
      p.Reads p.rest ((script.map (·.statement)).flatMap Statement.code) names [] q := by
  induction script generalizing p with
  | nil =>
    refine ⟨p, [], ?_, ?_⟩
    · unfold parse
      split
      · rfl
      · next some => rw [rest] at some; cases some
    · rw [rest]
      exact .refl p
  | cons first others ih =>
    obtain ⟨t, us, p₁, left, statement, account⟩ :=
      parseStatement_of_spelled first.spelled rest (past_sentences others) scope.1
    obtain ⟨q, names, parsed, account'⟩ := ih (account.rest_of_append rest)
      (scope.2.mono fun n hn => (account.declared n).mpr (List.mem_append.mp hn))
    refine ⟨q, first.statement.target?.toList ++ names, ?_, ?_⟩
    · unfold parse
      split
      · next none => rw [left] at none; cases none
      · next t' us' left' =>
        obtain ⟨rfl, rfl⟩ := List.cons.inj (left.symm.trans left')
        split
        · next bad => rw [statement] at bad; cases bad
        · next good =>
          rw [statement] at good
          cases good
          exact parsed
    · rw [account.rest]
      exact account.trans account'

/-! ### Both halves -/

theorem finish_eq {q : Parser} (h : p.parse = .ok q) : p.finish = q := by
  unfold finish
  split
  · next good => exact Except.ok.inj (good.symm.trans h)
  · next bad => rw [h] at bad; cases bad

end RouteScript.Parser

namespace RouteScript

open Script RouteScript.Parser

/-- Whatever the tokens, the program is a sequence of blocks in scope; without
errors it is the translation of a script. -/
theorem compileTokens_blocks (tokens : List Token) (d : Diagnostics) :
    ∃ (blocks : List Block) (found : List Diagnostic),
      (compileTokens tokens d).program = blocks.flatMap Block.code ∧
      (compileTokens tokens d).diagnostics = found.foldl Sink.push d ∧
      Block.InScopeOf [] blocks ∧ (found = [] → ∃ script, Covers script tokens) := by
  obtain ⟨q, parsed⟩ := parse_isOk { rest := tokens, diagnostics := d }
  obtain ⟨blocks, names, found, account, scope, clean⟩ := parse_blocks parsed
  refine ⟨blocks, found, ?_, ?_, scope, ?_⟩
  · simp [compileTokens, finish_eq parsed, program, account.emitted]
  · simp [compileTokens, finish_eq parsed, account.diagnostics]
  · intro none
    obtain ⟨script, spelled, rfl⟩ := clean none
    exact ⟨script, spelled, inScope_iff.mpr (Block.inScopeOf_whole.mp scope)⟩

/-- A script in scope compiles to its translation, and nothing is recorded. -/
theorem compileTokens_of_covers {script : List Sentence} {tokens : List Token}
    (covers : Covers script tokens) (d : Diagnostics) :
    compileTokens tokens d = ⟨(script.map (·.statement)).flatMap Statement.code, d⟩ := by
  obtain ⟨q, names, parsed, account⟩ :=
    parse_of_spelled (p := { rest := tokens, diagnostics := d }) covers.spelled.symm
      (inScope_iff.mp covers.scope)
  simp [compileTokens, finish_eq parsed, program, account.emitted, account.diagnostics]

/-- Nothing is recorded about tokens exactly if they are those of a script of the
grammar that reads each name behind its first value. There is one such script
then, and the program is its translation. -/
theorem compileTokens_clean_iff (tokens : List Token) (d : Diagnostics) :
    ((compileTokens tokens d).diagnostics = d ↔ ∃ script, Covers script tokens) ∧
      ∀ script, Covers script tokens →
        (∀ other : List Sentence, other.flatMap (·.tokens) = tokens → other = script) ∧
        (compileTokens tokens d).program = (script.map (·.statement)).flatMap Statement.code := by
  constructor
  · constructor
    · intro same
      obtain ⟨blocks, found, -, diagnostics, -, clean⟩ := compileTokens_blocks tokens d
      rw [same] at diagnostics
      exact clean (eq_nil_of_foldl_push diagnostics.symm)
    · rintro ⟨script, covers⟩
      rw [compileTokens_of_covers covers]
  · intro script covers
    constructor
    · intro other spelled
      exact sentences_unique (spelled.trans covers.spelled.symm)
    · rw [compileTokens_of_covers covers]

/-- A reply is captured, and shown by the next statement. -/
theorem compileTokens_clean_iff_capture :
    let here : Span := ⟨⟨1, 1⟩, ⟨1, 2⟩⟩
    let tokens : List Token := [⟨.get, here, "get"⟩, ⟨.string, here, "/a"⟩, ⟨.number, here, "404"⟩,
      ⟨.equals, here, "="⟩, ⟨.identifier, here, "x"⟩, ⟨.print, here, "print"⟩,
      ⟨.identifier, here, "x"⟩, ⟨.plus, here, "+"⟩, ⟨.string, here, "!"⟩]
    ∃ script, Covers script tokens ∧
      (compileTokens tokens { file := "s" }).program =
        [.pushLiteral "/a", .pushLiteral "404", .request ⟨.capture, .get, false⟩,
          .bindVariable "x", .readVariable "x", .pushLiteral "!", .concatenate, .print] := by
  intro here tokens
  have url : Expression.Spelled (.single (.text "/a")) [⟨.string, here, "/a"⟩] :=
    .single (.text (t := ⟨.string, here, "/a"⟩) rfl)
  have status : StatusSpelled (some "404") [⟨.number, here, "404"⟩] :=
    .written (t := ⟨.number, here, "404"⟩) rfl
  have reaction : Reaction.Spelled (.capture "x") [⟨.equals, here, "="⟩, ⟨.identifier, here, "x"⟩] :=
    .capture (n := ⟨.identifier, here, "x"⟩) rfl rfl
  have value : Expression.Spelled (.join (.name "x") (.single (.text "!")))
      [⟨.identifier, here, "x"⟩, ⟨.plus, here, "+"⟩, ⟨.string, here, "!"⟩] :=
    .join (.name (t := ⟨.identifier, here, "x"⟩) rfl) rfl
      (.single (.text (t := ⟨.string, here, "!"⟩) rfl))
  let ask : Sentence :=
    ⟨_, _, .request (k := ⟨.get, here, "get"⟩) rfl url .absent status reaction⟩
  let show' : Sentence := ⟨_, _, .print (k := ⟨.print, here, "print"⟩) rfl value⟩
  have covers : Covers [ask, show'] tokens := by
    refine ⟨rfl, inScope_iff.mpr ?_⟩
    simp [InScopeOf, ask, show', Statement.reads, Expression.names, Expression.operands,
      Operand.name?, bodyNames, Reaction.names, Statement.target?, Reaction.target?]
  exact ⟨_, covers, ((compileTokens_clean_iff tokens { file := "s" }).2 _ covers).2⟩

end RouteScript
