import RouteScript.Proofs.Grammar

/-!
What the parser does on its way through values.

`Reads` accounts for a stretch of parsing: the tokens that were passed, the
instructions that were emitted, the names that were given values and the errors
that were recorded, each about the token at hand (`Traced`). Accounts add up
(`Reads.trans`), and every step of the parser has one.

`parseValue_outcome` is the account of a value, for every list of tokens: nothing
is emitted unless there is a value, and what is emitted is the code of the longest
expression that could be read, also where an error follows behind a `+`.
`parseValue_of_spelled` is the other direction: a value that is spelled out is
read to its end and without an error.
-/

namespace RouteScript.Parser

open Script

/-! ### Places of errors -/

/-- An error about a token, at its start. -/
inductive About (t : Token) : Diagnostic → Prop where
  | unexpected {expected : String} {after : Position} :
      About t (.unexpectedToken t.loc expected after)
  | unknown {name : String} : About t (.nullVariable t.loc name)
  | noParse {text : String} : About t (.noParse t.loc.start text)

theorem About.fatal {t : Token} {d : Diagnostic} (about : About t d) : d.fatal = true := by
  cases about <;> rfl

/-- `Traced ts found us`: on the way from the tokens `ts` to the tokens `us`, each of the errors
`found` was recorded about the token at hand. Only behind the last token is there an error of
another kind, and no token is left then. -/
inductive Traced : List Token → List Diagnostic → List Token → Prop where
  | refl (ts : List Token) : Traced ts [] ts
  | pass {t : Token} {ts us : List Token} {found : List Diagnostic} :
      Traced ts found us → Traced (t :: ts) found us
  | here {t : Token} {ts us : List Token} {d : Diagnostic} {found : List Diagnostic} :
      About t d → Traced (t :: ts) found us → Traced (t :: ts) (d :: found) us
  | ended {t : Token} {expected : String} : Traced [t] [.expectedToken t.loc.stop expected] []

theorem Traced.trans {ts us vs : List Token} {found further : List Diagnostic}
    (first : Traced ts found us) (second : Traced us further vs) :
    Traced ts (found ++ further) vs := by
  induction first with
  | refl => exact second
  | pass _ ih => exact .pass (ih second)
  | here about _ ih => exact .here about (ih second)
  | ended =>
    cases second with
    | refl => exact .ended

/-! ### Accounts -/

/-- `p.Reads ts code names found q`: from `p` to `q` the tokens `ts` were passed,
`code` was emitted, `names` were given values and the errors `found` were
recorded. -/
structure Reads (p : Parser) (ts : List Token) (code : Program) (names : List String)
    (found : List Diagnostic) (q : Parser) : Prop where
  rest : p.rest = ts ++ q.rest
  cursor : q.cursor = p.cursor + ts.length
  emitted : q.emitted = code.reverse ++ p.emitted
  declared : ∀ n, n ∈ q.declared ↔ n ∈ names ∨ n ∈ p.declared
  diagnostics : q.diagnostics = found.foldl Sink.push p.diagnostics
  fatal : ∀ d ∈ found, d.fatal = true
  traced : Traced p.rest found q.rest

namespace Reads

variable {p q r : Parser} {ts us : List Token} {code more : Program} {names others : List String}
  {found further : List Diagnostic}

theorem refl (p : Parser) : p.Reads [] [] [] [] p :=
  ⟨rfl, rfl, rfl, by simp, rfl, nofun, .refl _⟩

theorem trans (first : p.Reads ts code names found q) (second : q.Reads us more others further r) :
    p.Reads (ts ++ us) (code ++ more) (names ++ others) (found ++ further) r where
  rest := by rw [first.rest, second.rest, List.append_assoc]
  cursor := by rw [second.cursor, first.cursor, List.length_append, Nat.add_assoc]
  emitted := by rw [second.emitted, first.emitted, List.reverse_append, List.append_assoc]
  declared n := by
    rw [second.declared, first.declared, List.mem_append, or_left_comm, or_assoc]
  diagnostics := by rw [second.diagnostics, first.diagnostics, List.foldl_append]
  fatal d mem := (List.mem_append.mp mem).elim (first.fatal d) (second.fatal d)
  traced := first.traced.trans second.traced

theorem next {t : Token} (rest : p.rest = t :: us) : p.Reads [t] [] [] [] p.next :=
  ⟨by simp [rest], rfl, rfl, by simp [Parser.next], rfl, nofun, by
    rw [rest_next, rest]
    exact .pass (.refl us)⟩

theorem emit (p : Parser) (i : Instruction) : p.Reads [] [i] [] [] (p.emit i) :=
  ⟨rfl, rfl, rfl, by simp [Parser.emit], rfl, nofun, .refl _⟩

theorem report {t : Token} (rest : p.rest = t :: us) {d : Diagnostic} (about : About t d) :
    p.Reads [] [] [] [d] (p.report d) :=
  ⟨rfl, rfl, rfl, by simp [Parser.report], rfl, by simpa using about.fatal, by
    rw [rest_report, rest]
    exact .here about (.refl _)⟩

theorem declare (p : Parser) (name : String) : p.Reads [] [] [name] [] (p.declare name) := by
  unfold Parser.declare
  split
  · next known =>
    refine ⟨rfl, rfl, rfl, ?_, rfl, nofun, .refl _⟩
    intro n
    constructor
    · exact .inr
    · rintro (here | known')
      · rw [List.mem_singleton.mp here]
        simpa using known
      · exact known'
  · exact ⟨rfl, rfl, rfl, by simp, rfl, nofun, .refl _⟩

theorem thenEmit (h : p.Reads ts code names found q) (i : Instruction) :
    p.Reads ts (code ++ [i]) names found (q.emit i) := by
  simpa using h.trans (.emit q i)

theorem thenDeclare (h : p.Reads ts code [] found q) (name : String) :
    p.Reads ts code [name] found (q.declare name) := by
  simpa using h.trans (.declare q name)

theorem thenNext {t : Token} (h : p.Reads ts code names found q) (rest : q.rest = t :: us) :
    p.Reads (ts ++ [t]) code names found q.next := by
  simpa using h.trans (.next rest)

/-- A token that is passed behind an error about it. -/
theorem reportNext {t : Token} (rest : p.rest = t :: us) {d : Diagnostic} (about : About t d) :
    p.Reads [t] [] [] [d] (p.report d).next :=
  (Reads.report rest about).trans (.next (p := p.report d) rest)

/-- The last token is passed, where another one was needed. -/
theorem reportEnd {t : Token} (rest : p.rest = [t]) (expected : String) :
    p.Reads [t] [] [] [.expectedToken t.loc.stop expected]
      (p.report (.expectedToken t.loc.stop expected)).next :=
  ⟨by simp [rest], rfl, rfl, by simp [Parser.next, Parser.report], rfl,
    by simp [Diagnostic.fatal], by
    rw [rest_next, rest_report, rest]
    exact .ended⟩

/-- The names are those of the parser before, unless new ones were added. -/
theorem mem_declared (h : p.Reads ts code [] found q) {n : String} :
    n ∈ q.declared ↔ n ∈ p.declared := by
  rw [h.declared]
  simp

theorem program (h : p.Reads ts code names found q) : q.program = p.program ++ code := by
  simp [Parser.program, h.emitted]

theorem rest_of_append {us : List Token} (h : p.Reads ts code names found q)
    (rest : p.rest = ts ++ us) : q.rest = us :=
  List.append_cancel_left (h.rest.symm.trans rest)

end Reads

theorem entries_foldl_push (found : List Diagnostic) (d : Diagnostics) :
    (found.foldl Sink.push d).entries = d.entries ++ found := by
  induction found generalizing d with
  | nil => simp
  | cons e found ih => simp [ih, Sink.push]

/-- Every recorded error shows. -/
theorem eq_nil_of_foldl_push {found : List Diagnostic} {d : Diagnostics}
    (h : found.foldl Sink.push d = d) : found = [] := by
  have same := entries_foldl_push found d
  rw [h] at same
  simpa using same

/-! ### Primitive steps -/

/-- A near-end check either finds another token behind the next one and changes
nothing, or reports and passes the last one. -/
theorem checkNearEnd_account {expected : String} {p q : Parser} {t : Token} {ts : List Token}
    {near : Bool} (left : p.rest = t :: ts) (h : p.checkNearEnd expected = .ok (near, q)) :
    (∃ u us, near = true ∧ q = p ∧ ts = u :: us ∧ p.Reads [t] [] [] [] p.next ∧
        p.next.rest = u :: us) ∨
      (near = false ∧ ts = [] ∧
        p.Reads [t] [] [] [.expectedToken t.loc.stop expected] q) := by
  unfold checkNearEnd at h
  rw [left] at h
  have first : p.Reads [t] [] [] [] p.next := .next left
  cases ts with
  | nil =>
    cases h
    exact .inr ⟨rfl, rfl, .reportEnd left expected⟩
  | cons u us =>
    cases h
    exact .inl ⟨u, us, rfl, rfl, rfl, first, first.rest_of_append left⟩

theorem unexpected_account {expected : String} {p q : Parser}
    (h : p.unexpected expected = .ok q) :
    ∃ t ts after, p.rest = t :: ts ∧
      p.Reads [] [] [] [.unexpectedToken t.loc expected after] q := by
  unfold unexpected current at h
  split at h
  · cases h
  · next t ts rest =>
    cases h
    exact ⟨t, ts, _, rest, .report rest .unexpected⟩

theorem current_of_rest {p : Parser} {t : Token} {ts : List Token} (rest : p.rest = t :: ts) :
    p.current = .ok t := by
  unfold current
  rw [rest]

theorem checkNearEnd_of_two {expected : String} {p : Parser} {t u : Token} {ts : List Token}
    (rest : p.rest = t :: u :: ts) : p.checkNearEnd expected = .ok (true, p) := by
  unfold checkNearEnd
  rw [rest]

/-! ### Values, one step at a time -/

/-- What the rest of a value can be: nothing, a `+` at the very end, or a `+` with
something behind it. -/
theorem parsePlus_cases {p q : Parser} (h : p.parsePlus = .ok q) :
    q = p ∨
      (∃ t, t.kind = .plus ∧ p.rest = [t] ∧
        p.Reads [t] [] [] [.expectedToken t.loc.stop valueExpected] q) ∨
      (∃ t u ts found r, t.kind = .plus ∧ p.rest = t :: u :: ts ∧
        p.next.parseValue = .ok (found, r) ∧ q = if found then r.emit .concatenate else r) := by
  unfold parsePlus at h
  split at h
  · cases h
    exact .inl rfl
  · next t ts rest =>
    split at h
    · next kind =>
      split at h
      · cases h
      · next near =>
        cases h
        rcases checkNearEnd_account rest near with ⟨_, _, impossible, _⟩ | ⟨-, rfl, account⟩
        · cases impossible
        · exact .inr (.inl ⟨t, kind, rest, account⟩)
      · next near =>
        rcases checkNearEnd_account rest near with ⟨u, us, -, rfl, rfl, -⟩ | ⟨impossible, _⟩
        · split at h
          · cases h
          · next found r value =>
            cases h
            exact .inr (.inr ⟨t, u, us, found, r, kind, rest, value, rfl⟩)
        · cases impossible
    · cases h
      exact .inl rfl

/-- What a value can start with: nothing, an operand, an unknown name, or a token
that starts no value. -/
theorem parseValue_cases {p q : Parser} {found : Bool} (h : p.parseValue = .ok (found, q)) :
    (p.rest = [] ∧ found = false ∧ q = p) ∨
      (∃ t ts, ∃ o : Operand, p.rest = t :: ts ∧ o.Spelled t ∧
        (∀ n, o.name? = some n → n ∈ p.declared) ∧ found = true ∧ (p.emit o.code).next.parsePlus = .ok q) ∨
      (∃ t ts, p.rest = t :: ts ∧ t.kind = .identifier ∧ t.text ∉ p.declared ∧ found = false ∧
        q = (p.report (.nullVariable t.loc t.text)).next) ∨
      (∃ t ts, p.rest = t :: ts ∧ t.kind ≠ .string ∧ t.kind ≠ .identifier ∧ found = false ∧
        p.unexpected valueExpected = .ok q) := by
  unfold parseValue at h
  split at h
  · next rest =>
    cases h
    exact .inl ⟨rest, rfl, rfl⟩
  · next t ts rest =>
    split at h
    · next kind =>
      split at h
      · cases h
      · next plus =>
        cases h
        refine .inr (.inl ⟨t, ts, .text t.text, rest, .text kind, ?_, rfl, plus⟩)
        intro n hn
        cases hn
    · next kind =>
      split at h
      · next known =>
        split at h
        · cases h
        · next plus =>
          cases h
          refine .inr (.inl ⟨t, ts, .name t.text, rest, .name kind, ?_, rfl, plus⟩)
          intro n hn
          cases hn
          simpa using known
      · next unknown =>
        cases h
        exact .inr (.inr (.inl ⟨t, ts, rest, kind, by simpa using unknown, rfl, rfl⟩))
    · next string identifier =>
      split at h
      · cases h
      · next misplaced =>
        cases h
        exact .inr (.inr (.inr ⟨t, ts, rest, string, identifier, rfl, misplaced⟩))

/-! ### Values -/

@[simp] theorem operands_ne_nil (e : Expression) : e.operands ≠ [] := by
  cases e <;> simp [Expression.operands]

theorem code_single (o : Operand) : (Expression.single o).code = [o.code] := rfl

/-- An operand in front of an expression is joined to it behind all of its code. -/
theorem code_join (o : Operand) (e : Expression) :
    (Expression.join o e).code = o.code :: (e.code ++ [.concatenate]) := by
  have pos : 0 < e.operands.length := List.length_pos_iff.mpr (operands_ne_nil e)
  obtain ⟨n, hn⟩ : ∃ n, e.operands.length = n + 1 := ⟨_, (Nat.succ_pred_eq_of_pos pos).symm⟩
  simp [Expression.code, Expression.operands, hn, List.replicate_succ']

/-- The code of an expression pushes operands and joins them. -/
theorem mem_code {e : Expression} {i : Instruction} (mem : i ∈ e.code) :
    (∃ o : Operand, i = o.code) ∨ i = .concatenate := by
  rcases List.mem_append.mp mem with operand | joint
  · obtain ⟨o, -, rfl⟩ := List.mem_map.mp operand
    exact .inl ⟨o, rfl⟩
  · exact .inr (List.eq_of_mem_replicate joint)

theorem request_not_mem_code (e : Expression) : ∀ i ∈ e.code, ∀ r, i ≠ .request r := by
  rintro i mem r rfl
  rcases mem_code mem with ⟨o, eq⟩ | eq
  · cases o <;> cases eq
  · cases eq

/-- What reading a value comes to. -/
inductive ValueOutcome (p : Parser) : Bool → Parser → Prop where
  | ended : p.rest = [] → ValueOutcome p false p
  /-- A name without a value is reported and passed. -/
  | unknown {q : Parser} {t : Token} {ts : List Token} :
      p.rest = t :: ts → t.kind = .identifier → t.text ∉ p.declared →
      p.Reads [t] [] [] [.nullVariable t.loc t.text] q → ValueOutcome p false q
  /-- A token that starts no value is reported and left. -/
  | misplaced {q : Parser} {t : Token} {ts : List Token} {after : Position} :
      p.rest = t :: ts → t.kind ≠ .string → t.kind ≠ .identifier →
      p.Reads [] [] [] [.unexpectedToken t.loc valueExpected after] q → ValueOutcome p false q
  /-- An expression was read; if a `+` behind it led nowhere, there is one error,
  and the `+` was passed as well. -/
  | read {q : Parser} {e : Expression} {found : List Diagnostic} (ts extra : List Token) :
      e.Spelled ts → (∀ n ∈ e.names, n ∈ p.declared) → p.Reads (ts ++ extra) e.code [] found q →
      (found = [] ∧ extra = [] ∨ found.length = 1 ∧ extra ≠ []) → ValueOutcome p true q

theorem parseValue_outcome {p q : Parser} {found : Bool} (h : p.parseValue = .ok (found, q)) :
    ValueOutcome p found q := by
  -- The operand behind a `+` is read by `parseValue` again, on a shorter rest.
  induction len : p.rest.length using Nat.strongRecOn generalizing p q found with
  | ind n ih =>
    rcases parseValue_cases h with ⟨none, rfl, rfl⟩ | ⟨t, ts, o, rest, spelled, known, rfl, plus⟩ |
      ⟨t, ts, rest, kind, unknown, rfl, rfl⟩ | ⟨t, ts, rest, string, identifier, rfl, misplaced⟩
    · exact .ended none
    · have known' : ∀ n ∈ (Expression.single o).names, n ∈ p.declared := by
        intro n hn
        exact known n (mem_names_single.mp hn)
      have first : p.Reads [t] [o.code] [] [] (p.emit o.code).next :=
        (Reads.emit p o.code).trans (.next (p := p.emit o.code) rest)
      rcases parsePlus_cases plus with rfl | ⟨k, kind, last, account⟩ |
        ⟨k, u, us, found, r, kind, two, value, rfl⟩
      · exact .read [t] [] (.single spelled) known' first (.inl ⟨rfl, rfl⟩)
      · exact .read [t] [k] (.single spelled) known' (first.trans account)
          (.inr ⟨rfl, by simp⟩)
      · have passed : (p.emit o.code).next.Reads [k] [] [] [] (p.emit o.code).next.next :=
          .next two
        have shorter : (p.emit o.code).next.next.rest.length < n := by
          have behind : (p.emit o.code).next.next.rest = ts.tail := by simp [rest]
          rw [behind, ← len, rest, List.length_tail, List.length_cons]
          omega
        cases ih _ shorter value rfl with
        | ended none =>
          rw [rest_next, two] at none
          cases none
        | @unknown _ v _ _ _ _ account =>
          exact .read [t] [k, v] (.single spelled) known'
            (first.trans (passed.trans account)) (.inr ⟨rfl, by simp⟩)
        | misplaced _ _ _ account =>
          exact .read [t] [k] (.single spelled) known'
            (first.trans (passed.trans account)) (.inr ⟨rfl, by simp⟩)
        | read ts' extra spelled' names account fine =>
          refine .read (t :: k :: ts') extra (.join spelled kind spelled') ?_ ?_ fine
          · intro n hn
            rcases mem_names_join.mp hn with here | there
            · exact known n here
            · exact names n there
          · rw [code_join]
            exact first.trans (passed.trans (account.thenEmit .concatenate))
    · exact .unknown rest kind unknown (.reportNext rest .unknown)
    · obtain ⟨u, us, after, rest', account⟩ := unexpected_account misplaced
      obtain ⟨rfl, -⟩ := List.cons.inj (rest'.symm.trans rest)
      exact .misplaced rest string identifier account

/-! ### Values that are spelled out -/

/-- A value is over where no `+` follows. -/
theorem parsePlus_of_past {p : Parser} (next : Past 1 p.rest) : p.parsePlus = .ok p := by
  unfold parsePlus
  split
  · rfl
  · next t ts rest =>
    rw [if_neg]
    intro kind
    simp [rest, kind, tier] at next

theorem parsePlus_of_plus {p q : Parser} {t u : Token} {ts : List Token} (kind : t.kind = .plus)
    (rest : p.rest = t :: u :: ts) (value : p.next.parseValue = .ok (true, q)) :
    p.parsePlus = .ok (q.emit .concatenate) := by
  unfold parsePlus
  split
  · next none => rw [rest] at none; cases none
  · next t' ts' rest' =>
    obtain ⟨rfl, rfl⟩ := List.cons.inj (rest.symm.trans rest')
    rw [if_pos kind]
    split
    · next near => rw [checkNearEnd_of_two rest] at near; cases near
    · next near => rw [checkNearEnd_of_two rest] at near; cases near
    · next near =>
      rw [checkNearEnd_of_two rest] at near
      cases near
      rw [value]
      rfl

theorem parseValue_of_operand {p q : Parser} {o : Operand} {t : Token} {ts : List Token}
    (spelled : o.Spelled t) (rest : p.rest = t :: ts)
    (known : ∀ n, o.name? = some n → n ∈ p.declared)
    (plus : (p.emit o.code).next.parsePlus = .ok q) : p.parseValue = .ok (true, q) := by
  unfold parseValue
  split
  · next none => rw [rest] at none; cases none
  · next t' ts' rest' =>
    obtain ⟨rfl, rfl⟩ := List.cons.inj (rest.symm.trans rest')
    cases spelled with
    | text kind =>
      simp only [Operand.code] at plus
      simp [kind, plus]
    | name kind =>
      have declared : t.text ∈ p.declared := known _ rfl
      simp only [Operand.code] at plus
      simp [kind, declared, plus]

/-- A value that is spelled out, of names that have values, is read to its end. -/
theorem parseValue_of_spelled {e : Expression} {ts r : List Token} (spelled : e.Spelled ts)
    {p : Parser} (rest : p.rest = ts ++ r) (next : Past 1 r)
    (known : ∀ n ∈ e.names, n ∈ p.declared) :
    ∃ q, p.parseValue = .ok (true, q) ∧ p.Reads ts e.code [] [] q := by
  induction spelled generalizing p with
  | @single o t spelled =>
    have first : p.Reads [t] [o.code] [] [] (p.emit o.code).next :=
      (Reads.emit p o.code).trans (.next (p := p.emit o.code) rest)
    refine ⟨_, ?_, first⟩
    apply parseValue_of_operand spelled rest (fun n hn => known n (mem_names_single.mpr hn))
    apply parsePlus_of_past
    rw [first.rest_of_append rest]
    exact next
  | @join o t k e ts spelled kind inner ih =>
    have first : p.Reads [t] [o.code] [] [] (p.emit o.code).next :=
      (Reads.emit p o.code).trans (.next (p := p.emit o.code) rest)
    have rest₁ : (p.emit o.code).next.rest = k :: (ts ++ r) := first.rest_of_append rest
    have second : (p.emit o.code).next.Reads [k] [] [] [] (p.emit o.code).next.next := .next rest₁
    obtain ⟨q, value, third⟩ := ih (second.rest_of_append rest₁)
      (fun n hn => known n (mem_names_join.mpr (.inr hn)))
    obtain ⟨u, us, two⟩ := inner.append_eq_cons r
    refine ⟨q.emit .concatenate, ?_, ?_⟩
    · apply parseValue_of_operand spelled rest (fun n hn => known n (mem_names_join.mpr (.inl hn)))
      exact parsePlus_of_plus kind (by rw [rest₁, two]) value
    · rw [code_join]
      exact first.trans (second.trans (third.thenEmit .concatenate))

end RouteScript.Parser
