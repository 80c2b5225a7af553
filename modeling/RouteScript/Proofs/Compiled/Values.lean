import RouteScript.Proofs.Compiled.Correctness
import RouteScript.Proofs.Parser.Bounds

/-!
What reading a value comes to.

A value is read anywhere within the tokens, with any names known. Either there is none, which is one
error and no code, or the operands at hand are read as far as they go. They stand at every second
place with a `+` between any two of them (`Laid`), and their code pushes one text, the values of the
operands joined from left to right (`Pushes`). Where a `+` leads nowhere there is an error as well,
but the code of the operands before it is the same as if they were all (`parseValue_contract`).
-/

namespace RouteScript

open Script RouteScript.Parser

/-! ### Operands among tokens -/

/-- Operands stand at every second place, from place `i` on, with a `+` between any two. -/
structure Laid (tokens : List Token) (i : Nat) (operands : List Operand) : Prop where
  operand : ∀ j o, operands[j]? = some o → ∃ t, tokens[i + 2 * j]? = some t ∧ o.Spelled t
  plus : ∀ j, j + 1 < operands.length → ∃ t, tokens[i + 2 * j + 1]? = some t ∧ t.kind = .plus

theorem Script.Expression.Spelled.laid {e : Expression} {ts : List Token} (spelled : e.Spelled ts)
    {tokens rest : List Token} {i : Nat} (here : tokens.drop i = ts ++ rest) :
    Laid tokens i e.operands := by
  have place (n : Nat) : tokens[i + n]? = (tokens.drop i)[n]? := List.getElem?_drop.symm
  induction spelled generalizing i with
  | @single o t spelled =>
    constructor
    · intro j o' there
      cases j with
      | zero =>
        cases there
        exact ⟨t, by rw [place, here]; rfl, spelled⟩
      | succ j => cases there
    · intro j short
      simp [Expression.operands] at short
  | @join o t k e ts spelled kind _ ih =>
    have behind : tokens.drop (i + 2) = ts ++ rest := by
      rw [← List.drop_drop, here]
      rfl
    have laid := ih behind fun n => List.getElem?_drop.symm
    constructor
    · intro j o' there
      cases j with
      | zero =>
        cases there
        exact ⟨t, by rw [place, here]; rfl, spelled⟩
      | succ j =>
        rw [Nat.mul_succ, Nat.add_comm (2 * j), ← Nat.add_assoc]
        exact laid.operand j o' there
    · intro j short
      cases j with
      | zero => exact ⟨k, by rw [Nat.add_assoc, place, here]; rfl, kind⟩
      | succ j =>
        rw [Nat.mul_succ, Nat.add_comm (2 * j), ← Nat.add_assoc]
        exact laid.plus j (Nat.lt_of_succ_lt_succ short)

/-! ### The code of operands -/

/-- The value of an expression is that of its operands, joined from left to right. -/
theorem Script.Expression.value?_eq_join {e : Expression} {names : List (String × String)}
    (known : Known e.names names) :
    ∃ values : List String, e.operands.map (·.value? names) = values.map some ∧
      e.value? names = some (String.join values) := by
  induction e with
  | single o =>
    obtain ⟨v, value⟩ := o.value?_isSome fun n hn => known n (mem_names_single.mpr hn)
    refine ⟨[v], by simp [Expression.operands, value], ?_⟩
    simp [Expression.value?, value]
  | join o rest ih =>
    obtain ⟨v, value⟩ := o.value?_isSome fun n hn => known n (mem_names_join.mpr (.inl hn))
    obtain ⟨values, each, joined⟩ := ih (known.mono fun n hn => mem_names_join.mpr (.inr hn))
    refine ⟨v :: values, by simp [Expression.operands, value, each], ?_⟩
    simp [Expression.value?, value, joined]

/-- The code pushes the values of the operands, joined from left to right, on any machine that knows
the names among them. Its instructions do nothing else, and so does a run of them that is not to
be aborted from the start. -/
def Pushes (operands : List Operand) (code : Program) : Prop :=
  ∀ {σ ε : Type} (service : Service σ ε) (m : Machine) (s : σ),
    Known (operands.filterMap Operand.name?) m.bindings →
    ∃ values : List String, operands.map (·.value? m.bindings) = values.map some ∧
      let pushed : Machine := { m with stack := String.join values :: m.stack }
      Machine.steps service code m s = ⟨pushed, s, none⟩ ∧
      (m.blocking = false ∨ m.err = 0 → ∃ trace, Machine.run service code m s =
        ⟨.finished, { pushed with cursor := code.length }, s, trace⟩)

theorem Script.Expression.pushes (e : Expression) : Pushes e.operands e.code := by
  intro σ ε service m s known
  obtain ⟨values, each, value⟩ := e.value?_eq_join known
  have stepped := Machine.steps_expression service value s
  refine ⟨values, each, stepped, ?_⟩
  intro going
  have going' : (m.blocking && m.err != 0) = false := by
    rcases going with calm | none
    · simp [calm]
    · simp [none]
  obtain ⟨trace, ran⟩ := Machine.runFrom_steps service (s := s) (request_not_mem_code e) going' 0 []
  refine ⟨trace ++ [], ?_⟩
  rw [List.append_nil, stepped] at ran
  rw [Machine.run, ran]
  simp [Machine.runFrom]

namespace Parser

/-- A call of `parseValue` records at most one error, adds one piece of code to the program and
changes nothing about the names. Without a value there is no code and one error, and an unknown name
is passed while any other token is left. With a value the operands stand at the cursor, know their
names, and their code pushes them joined. -/
theorem parseValue_contract (tokens : List Token) (w : Walk) (inside : w.cursor < tokens.length) :
    ∃ (found : Bool) (w' : Walk) (code : Program) (errors : List Diagnostic),
      (w.view tokens).parseValue = .ok (found, w'.view tokens) ∧
      (w'.view tokens).program = (w.view tokens).program ++ code ∧
      (∀ n, n ∈ w'.declared ↔ n ∈ w.declared) ∧
      w'.diagnostics = errors.foldl Sink.push w.diagnostics ∧ errors.length ≤ 1 ∧
      (found = false → code = [] ∧ errors.length = 1 ∧
        ((tokens[w.cursor].kind = .identifier ∧ tokens[w.cursor].text ∉ w.declared ∧
            w'.cursor = w.cursor + 1) ∨
          (tokens[w.cursor].kind ≠ .string ∧ tokens[w.cursor].kind ≠ .identifier ∧
            w'.cursor = w.cursor))) ∧
      (found = true → ∃ operands : List Operand, operands ≠ [] ∧
        code = operands.map Operand.code ++ List.replicate (operands.length - 1) .concatenate ∧
        Laid tokens w.cursor operands ∧
        (∀ n ∈ operands.filterMap Operand.name?, n ∈ w.declared) ∧ Pushes operands code) := by
  have here := Walk.view_rest_of_inside inside
  obtain ⟨⟨_, q⟩, read⟩ := parseValue_isOk (w.view tokens)
  obtain ⟨⟨found, w'⟩, -, same⟩ := Walk.ok_of_seen ((Walk.seen_value w).2.trans read)
  obtain ⟨rfl, there⟩ : found = _ ∧ w'.view tokens = q := Prod.mk.inj same
  refine ⟨found, w', ?_⟩
  cases parseValue_outcome read with
  | ended none =>
    rw [here] at none
    cases none
  | unknown rest kind unknown account =>
    obtain ⟨rfl, -⟩ := List.cons.inj (rest.symm.trans here)
    subst there
    refine ⟨[], _, read, account.program, fun _ => account.mem_declared, account.diagnostics,
      Nat.le_refl 1, fun _ => ⟨rfl, rfl, .inl ⟨kind, unknown, account.cursor⟩⟩, nofun⟩
  | misplaced rest string identifier account =>
    obtain ⟨rfl, -⟩ := List.cons.inj (rest.symm.trans here)
    subst there
    refine ⟨[], _, read, account.program, fun _ => account.mem_declared, account.diagnostics,
      Nat.le_refl 1, fun _ => ⟨rfl, rfl, .inr ⟨string, identifier, account.cursor⟩⟩, nofun⟩
  | @read _ e errors ts extra spelled known account fine =>
    subst there
    have few : errors.length ≤ 1 := by
      rcases fine with ⟨rfl, -⟩ | ⟨one, -⟩
      · exact Nat.zero_le 1
      · exact Nat.le_of_eq one
    have laid : Laid tokens w.cursor e.operands :=
      spelled.laid (account.rest.trans (List.append_assoc ..))
    exact ⟨e.code, errors, read, account.program, fun _ => account.mem_declared,
      account.diagnostics, few, nofun,
      fun _ => ⟨e.operands, operands_ne_nil e, rfl, laid, known, e.pushes⟩⟩

/-- A `+` that leads nowhere: the operands before it are a value, and there is one error. -/
theorem parseValue_contract_broken_off :
    let here : Span := ⟨⟨1, 1⟩, ⟨1, 2⟩⟩
    let tokens : List Token := [⟨.print, here, "print"⟩, ⟨.string, here, "a"⟩, ⟨.plus, here, "+"⟩,
      ⟨.identifier, here, "x"⟩, ⟨.plus, here, "+"⟩, ⟨.equals, here, "="⟩]
    let w : Walk := { cursor := 1, declared := ["x"], diagnostics := { file := "s" } }
    w.cursor < tokens.length ∧ ∃ q : Parser, (w.view tokens).parseValue.toOption = some (true, q) ∧
      q.program = [.pushLiteral "a", .readVariable "x", .concatenate] ∧ q.cursor = 5 ∧
      q.diagnostics.entries.length = 1 ∧
      ∃ operands : List Operand, Laid tokens 1 operands ∧ Pushes operands q.program := by
  intro here tokens w
  have inside : w.cursor < tokens.length := by decide
  let q : Parser :=
    { cursor := 5, previous := some ⟨.plus, here, "+"⟩, rest := [⟨.equals, here, "="⟩],
      emitted := [.concatenate, .readVariable "x", .pushLiteral "a"], declared := ["x"],
      diagnostics := Sink.push { file := "s" } (.unexpectedToken here valueExpected here.stop) }
  have value : (w.view tokens).parseValue.toOption = some (true, q) := by decide +kernel
  obtain ⟨found, w', code, errors, read, appended, -, -, -, -, there⟩ :=
    parseValue_contract tokens w inside
  have same : some (found, w'.view tokens) = some (true, q) := by rw [← value, read]; rfl
  obtain ⟨rfl, reached⟩ := Prod.mk.inj (Option.some.inj same)
  obtain ⟨operands, -, -, laid, -, pushes⟩ := there rfl
  rw [reached] at appended
  change q.program = code at appended
  exact ⟨inside, q, value, rfl, rfl, rfl, operands, laid, appended ▸ pushes⟩

end Parser

end RouteScript
