import RouteScript.Proofs.Parser.Reading
import RouteScript.Proofs.Results

/-!
What the parser emits, for every list of tokens.

The program is a sequence of blocks (`parse_blocks`). A block is the code of a
whole statement, or, where a statement broke off, the code of some values that
nothing uses. Errors never leave half of an instruction sequence behind: a
binding, a print or a request is emitted only behind its operands, and a name is
read only if an earlier whole statement bound it (`Block.InScopeOf`).

A stretch without errors is a whole statement spelled out by its tokens
(`Produces.clean`). It never has more errors than tokens (`Produces.count`): a token
may be reported and left, but not before another one was passed.
-/

namespace RouteScript.Parser

open Script

/-! ### Blocks -/

/-- Code that one statement, or what is left of one, comes to. -/
inductive Block where
  | whole (s : Statement)
  | broken (values : List Expression)

namespace Block

def code : Block → Program
  | whole s => s.code
  | broken values => values.flatMap Expression.code

/-- The names that are read. -/
def reads : Block → List String
  | whole s => s.reads
  | broken values => values.flatMap Expression.names

/-- The name that is bound. -/
def target? : Block → Option String
  | whole s => s.target?
  | broken _ => none

/-- Names are read only where they have a value: one of `names`, or one bound by an
earlier block. -/
abbrev InScopeOf (names : List String) (blocks : List Block) : Prop :=
  Script.InScopeOf reads target? names blocks

theorem inScopeOf_whole {names : List String} {script : List Statement} :
    InScopeOf names (script.map whole) ↔
      Script.InScopeOf Statement.reads Statement.target? names script :=
  inScopeOf_map

end Block

/-- From `p` to `q` one block was emitted, for tokens `ts`, with errors `found`. -/
structure Produces (p : Parser) (ts : List Token) (b : Block) (found : List Diagnostic)
    (q : Parser) : Prop where
  account : p.Reads ts b.code b.target?.toList found q
  known : ∀ n ∈ b.reads, n ∈ p.declared
  passed : ts ≠ []
  clean : found = [] → ∃ s, b = .whole s ∧ s.Spelled ts
  count : found.length ≤ ts.length

variable {p q : Parser} {t : Token} {ts us : List Token}

/-- An error and no code. -/
theorem Produces.nothing {d : Diagnostic} (account : p.Reads ts [] [] [d] q) (passed : ts ≠ []) :
    p.Produces ts (.broken []) [d] q :=
  ⟨account, nofun, passed, nofun, List.length_pos_iff.mpr passed⟩

/-- Where a token is left, a value is read or reported as missing. -/
theorem parseValue_account {found : Bool} (left : p.rest = t :: ts)
    (h : p.parseValue = .ok (found, q)) :
    (found = false ∧ ∃ us d, p.Reads us [] [] [d] q) ∨
      (found = true ∧ ∃ (e : Expression) (us : List Token) (errors : List Diagnostic),
        (∀ n ∈ e.names, n ∈ p.declared) ∧ p.Reads us e.code [] errors q ∧
        (errors = [] → e.Spelled us) ∧ errors.length ≤ us.length) := by
  cases parseValue_outcome h with
  | ended none => rw [left] at none; cases none
  | unknown _ _ _ account => exact .inl ⟨rfl, _, _, account⟩
  | misplaced _ _ _ account => exact .inl ⟨rfl, _, _, account⟩
  | read _ _ spelled names account fine =>
    refine .inr ⟨rfl, _, _, _, names, account, ?_, ?_⟩
    · intro none
      rcases fine with ⟨-, rfl⟩ | ⟨one, -⟩
      · simpa using spelled
      · rw [none] at one; cases one
    · rcases fine with ⟨rfl, -⟩ | ⟨one, some⟩
      · exact Nat.zero_le _
      · rw [one, List.length_append]
        exact Nat.le_add_left_of_le (List.length_pos_iff.mpr some)

/-! ### Statements -/

theorem parsePrint_produces (left : p.rest = t :: ts) (kind : t.kind = .print)
    (h : p.parsePrint = .ok q) : ∃ us b found, p.Produces us b found q := by
  obtain ⟨⟨near, p₁⟩, check, h₁⟩ := ok_of_bind h
  rcases checkNearEnd_account left check with
    ⟨u, us, rfl, rfl, rfl, first, rest₁⟩ | ⟨rfl, rfl, account⟩
  · obtain ⟨⟨found, p₂⟩, value, h₂⟩ := ok_of_bind h₁
    rcases parseValue_account rest₁ value with
      ⟨rfl, us, d, account⟩ | ⟨rfl, e, us, errors, names, account, spelled, count⟩
    · cases h₂
      exact ⟨_, _, _, .nothing (first.trans account) (by simp)⟩
    · cases h₂
      refine ⟨t :: us, .whole (.print e), errors, ?_, names, by simp, ?_, ?_⟩
      · exact first.trans (account.thenEmit .print)
      · intro none
        exact ⟨_, rfl, .print kind (spelled none)⟩
      · exact Nat.le_succ_of_le count
  · cases h₁
    exact ⟨_, _, _, .nothing account (by simp)⟩

theorem parseAssignment_produces (left : p.rest = t :: ts) (kind : t.kind = .identifier)
    (h : p.parseAssignment = .ok q) : ∃ us b found, p.Produces us b found q := by
  obtain ⟨⟨near, p₁⟩, check, h₁⟩ := ok_of_bind h
  rcases checkNearEnd_account left check with
    ⟨u, us, rfl, rfl, rfl, first, rest₁⟩ | ⟨rfl, rfl, account⟩
  · obtain ⟨name, current, h₂⟩ := ok_of_bind h₁
    obtain ⟨sign, current', h₃⟩ := ok_of_bind h₂
    rw [current_of_rest left] at current
    rw [current_of_rest rest₁] at current'
    cases current
    cases current'
    split at h₃
    · next equals =>
      obtain ⟨⟨near, p₂⟩, check₂, h₄⟩ := ok_of_bind h₃
      rcases checkNearEnd_account rest₁ check₂ with
        ⟨v, vs, rfl, rfl, rfl, second, rest₂⟩ | ⟨rfl, rfl, account⟩
      · obtain ⟨⟨found, p₃⟩, value, h₅⟩ := ok_of_bind h₄
        rcases parseValue_account rest₂ value with
          ⟨rfl, us, d, account⟩ | ⟨rfl, e, us, errors, names, account, spelled, count⟩
        · cases h₅
          exact ⟨_, _, _, .nothing (first.trans (second.trans account)) (by simp)⟩
        · cases h₅
          refine ⟨t :: u :: us, .whole (.assign t.text e), errors, ?_, names, by simp,
            fun none => ⟨_, rfl, .assign kind equals (spelled none)⟩,
            Nat.le_succ_of_le (Nat.le_succ_of_le count)⟩
          have bound := (account.thenDeclare t.text).thenEmit (.bindVariable t.text)
          exact first.trans (second.trans bound)
      · cases h₄
        exact ⟨_, _, _, .nothing (first.trans account) (by simp)⟩
    · obtain ⟨u', _, after, -, account⟩ := unexpected_account h₃
      exact ⟨_, _, _, .nothing (first.trans account) (by simp)⟩
  · cases h₁
    exact ⟨_, _, _, .nothing account (by simp)⟩

/-! ### The clauses of a request -/

theorem parseBody_account {hasBody : Bool} (h : p.parseBody = .ok (hasBody, q)) :
    ∃ (body : Option Expression) (us : List Token) (found : List Diagnostic),
      hasBody = body.isSome ∧ (∀ n ∈ bodyNames body, n ∈ p.declared) ∧
      p.Reads us (bodyCode body) [] found q ∧ (found = [] → BodySpelled body us) ∧
      found.length ≤ us.length := by
  unfold parseBody at h
  split at h
  · cases h
    exact ⟨none, [], [], rfl, nofun, .refl p, fun _ => .absent, Nat.le_refl 0⟩
  · next t ts rest =>
    split at h
    · next kind =>
      obtain ⟨⟨near, p₁⟩, check, h₁⟩ := ok_of_bind h
      rcases checkNearEnd_account rest check with
        ⟨u, us, rfl, rfl, rfl, first, rest₁⟩ | ⟨rfl, rfl, account⟩
      · rcases parseValue_account rest₁ h₁ with
          ⟨rfl, us, d, account⟩ | ⟨rfl, e, us, errors, names, account, spelled, count⟩
        · exact ⟨none, _, [d], rfl, nofun, first.trans account, nofun,
            Nat.succ_le_succ (Nat.zero_le _)⟩
        · exact ⟨some e, _, errors, rfl, names, first.trans account,
            fun none => .present kind (spelled none), Nat.le_succ_of_le count⟩
      · cases h₁
        exact ⟨none, _, _, rfl, nofun, account, nofun, Nat.le_refl 1⟩
    · cases h
      exact ⟨none, [], [], rfl, nofun, .refl p, fun _ => .absent, Nat.le_refl 0⟩

theorem parseStatus_account (p : Parser) :
    ∃ status us, StatusSpelled status us ∧
      p.Reads us [.pushLiteral (status.getD "200")] [] [] p.parseStatus := by
  unfold parseStatus
  split
  · exact ⟨none, [], .absent, .emit p _⟩
  · next t ts rest =>
    split
    · next kind =>
      have emitted := Reads.emit p (.pushLiteral t.text)
      exact ⟨some t.text, [t], .written kind, emitted.trans (.next rest)⟩
    · exact ⟨none, [], .absent, .emit p _⟩

/-- The end of a request is emitted whole, or an error takes its place. -/
theorem parseReplyUse_account {method : Method} {hasBody : Bool}
    (h : p.parseReplyUse method hasBody = .ok q) :
    (∃ (reaction : Reaction) (us : List Token) (found : List Diagnostic),
      (∀ n ∈ reaction.names, n ∈ p.declared) ∧
      p.Reads us (reaction.code method hasBody) reaction.target?.toList found q ∧
      (found = [] → reaction.Spelled us) ∧ found.length ≤ us.length) ∨
    ∃ us d, us ≠ [] ∧ p.Reads us [] [] [d] q := by
  unfold parseReplyUse at h
  split at h
  · cases h
    exact .inl ⟨.ignore, [], [], nofun, .emit p _, fun _ => .ignore, Nat.le_refl 0⟩
  · next t ts rest =>
    split at h
    · next kind =>
      obtain ⟨⟨near, p₁⟩, check, h₁⟩ := ok_of_bind h
      rcases checkNearEnd_account rest check with
        ⟨u, us, rfl, rfl, rfl, first, rest₁⟩ | ⟨rfl, rfl, account⟩
      · obtain ⟨name, current, h₂⟩ := ok_of_bind h₁
        rw [current_of_rest rest₁] at current
        cases current
        split at h₂
        · next identifier =>
          cases h₂
          have emitted := (Reads.emit p₁.next (.request ⟨.capture, method, hasBody⟩)).thenEmit
            (.bindVariable u.text)
          have bound := emitted.thenDeclare u.text
          have passed := bound.thenNext (bound.rest_of_append rest₁)
          exact .inl ⟨.capture u.text, [t, u], [], nofun, first.trans passed,
            fun _ => .capture kind identifier, Nat.zero_le 2⟩
        · obtain ⟨u', _, after, -, account⟩ := unexpected_account h₂
          exact .inr ⟨_, _, List.cons_ne_nil _ _, first.trans account⟩
      · cases h₁
        exact .inr ⟨_, _, List.cons_ne_nil _ _, account⟩
    · next kind =>
      obtain ⟨⟨near, p₁⟩, check, h₁⟩ := ok_of_bind h
      rcases checkNearEnd_account rest check with
        ⟨u, us, rfl, rfl, rfl, first, rest₁⟩ | ⟨rfl, rfl, account⟩
      · obtain ⟨⟨found, p₂⟩, value, h₂⟩ := ok_of_bind h₁
        rcases parseValue_account rest₁ value with
          ⟨rfl, us, d, account⟩ | ⟨rfl, e, us, errors, names, account, spelled, count⟩
        · cases h₂
          exact .inr ⟨_, _, List.cons_ne_nil _ _, first.trans account⟩
        · cases h₂
          exact .inl ⟨.compare e, t :: us, errors, names, first.trans (account.thenEmit _),
            fun none => .compare kind (spelled none), Nat.le_succ_of_le count⟩
      · cases h₁
        exact .inr ⟨_, _, List.cons_ne_nil _ _, account⟩
    · cases h
      exact .inl ⟨.ignore, [], [], nofun, .emit p _, fun _ => .ignore, Nat.le_refl 0⟩

/-! ### Requests and whole scripts -/

theorem parseRequest_produces {method : Method} (left : p.rest = t :: ts)
    (kind : t.kind.method? = some method) (h : p.parseRequest method = .ok q) :
    ∃ us b found, p.Produces us b found q := by
  obtain ⟨⟨near, p₁⟩, check, h₁⟩ := ok_of_bind h
  rcases checkNearEnd_account left check with
    ⟨u, us, rfl, rfl, rfl, first, rest₁⟩ | ⟨rfl, rfl, account⟩
  · obtain ⟨⟨found, p₂⟩, value, h₂⟩ := ok_of_bind h₁
    rcases parseValue_account rest₁ value with
      ⟨rfl, us, d, account⟩ | ⟨rfl, url, us, errors, names, second, urlSpelled, count⟩
    · cases h₂
      exact ⟨_, _, _, .nothing (first.trans account) (by simp)⟩
    · obtain ⟨⟨hasBody, p₃⟩, readBody, h₃⟩ := ok_of_bind h₂
      obtain ⟨body, bs, errors', rfl, names', third, bodySpelled, count'⟩ :=
        parseBody_account readBody
      obtain ⟨status, ss, statusSpelled, fourth⟩ := parseStatus_account p₃
      have operands := first.trans (second.trans (third.trans fourth))
      -- None of the operands gives a name a value.
      have upTo₂ : ∀ n ∈ bodyNames body, n ∈ p₁.declared :=
        fun n hn => (first.trans second).mem_declared.mp (names' n hn)
      rcases parseReplyUse_account h₃ with
        ⟨reaction, rs, errors'', names'', fifth, reactionSpelled, count''⟩ | ⟨rs, d, some, fifth⟩
      · refine ⟨t :: (us ++ (bs ++ (ss ++ rs))), .whole (.request method url body status reaction),
          errors ++ (errors' ++ errors''), ?_, ?_, by simp, ?_, ?_⟩
        · simpa [Block.code, Block.target?, Statement.code, Statement.target?] using
            operands.trans fifth
        · intro n hn
          rcases List.mem_append.mp hn with hn | hn
          · rcases List.mem_append.mp hn with hn | hn
            · exact names n hn
            · exact upTo₂ n hn
          · exact operands.mem_declared.mp (names'' n hn)
        · intro none
          simp only [List.append_eq_nil_iff] at none
          exact ⟨_, rfl, .request kind (urlSpelled none.1) (bodySpelled none.2.1) statusSpelled
            (reactionSpelled none.2.2)⟩
        · simp only [List.length_append, List.length_cons]
          omega
      · refine ⟨t :: (us ++ (bs ++ (ss ++ rs))),
          .broken (url :: (body.toList ++ [.single (.text (status.getD "200"))])),
          errors ++ (errors' ++ [d]), ?_, ?_, by simp, by simp, ?_⟩
        · cases body <;>
            simpa [Block.code, Block.target?, bodyCode, code_single, Operand.code] using
              operands.trans fifth
        · intro n hn
          obtain ⟨e, he, read⟩ := List.mem_flatMap.mp hn
          rcases List.mem_cons.mp he with rfl | he
          · exact names n read
          · rcases List.mem_append.mp he with he | he
            · cases Option.mem_toList.mp he
              exact upTo₂ n read
            · cases List.mem_singleton.mp he
              cases mem_names_single.mp read
        · have pos := List.length_pos_iff.mpr some
          simp only [List.length_append, List.length_cons, List.length_nil]
          omega
  · cases h₁
    exact ⟨_, _, _, .nothing account (by simp)⟩

/-- A statement comes to one block, whatever follows its first token. -/
theorem parseStatement_produces (left : p.rest = t :: ts) (h : p.parseStatement t = .ok q) :
    ∃ us b found, p.Produces us b found q := by
  unfold parseStatement at h
  split at h
  · next kind => exact parseAssignment_produces left kind h
  · next kind => exact parsePrint_produces left kind h
  · cases h
    exact ⟨_, _, _, .nothing (.reportNext left .noParse) (by simp)⟩
  · split at h
    · next method => exact parseRequest_produces left method h
    · cases h
      exact ⟨_, _, _, .nothing (.reportNext left .noParse) (by simp)⟩

/-- Every list of tokens is passed to its end and comes to a sequence of blocks in
scope; without errors the blocks are statements, and the tokens spell them out. -/
theorem parse_blocks (h : p.parse = .ok q) :
    ∃ blocks names found, p.Reads p.rest (blocks.flatMap Block.code) names found q ∧
      Block.InScopeOf p.declared blocks ∧
      (found = [] → ∃ script : List Sentence, script.flatMap (·.tokens) = p.rest ∧
        blocks = (script.map (·.statement)).map .whole) := by
  fun_induction parse p with
  | case1 p none =>
    cases h
    rw [none]
    exact ⟨[], [], [], .refl _, trivial, fun _ => ⟨[], rfl, rfl⟩⟩
  | case2 p t ts rest e bad => cases h
  | case3 p t ts rest p₁ statement ih =>
    obtain ⟨us, b, found, first⟩ := parseStatement_produces rest statement
    obtain ⟨blocks, names, errors, others, scope, clean⟩ := ih h
    refine ⟨b :: blocks, b.target?.toList ++ names, found ++ errors, ?_, ⟨first.known, ?_⟩, ?_⟩
    · rw [first.account.rest]
      exact first.account.trans others
    · apply scope.mono
      intro n hn
      exact List.mem_append.mpr ((first.account.declared n).mp hn)
    · intro none
      obtain ⟨rfl, rfl⟩ := List.append_eq_nil_iff.mp none
      obtain ⟨s, rfl, spelled⟩ := first.clean rfl
      obtain ⟨script, tokens, rfl⟩ := clean rfl
      refine ⟨⟨s, us, spelled⟩ :: script, ?_, rfl⟩
      rw [first.account.rest, List.flatMap_cons, tokens]

end RouteScript.Parser
