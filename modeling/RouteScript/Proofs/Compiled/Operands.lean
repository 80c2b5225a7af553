import RouteScript.Proofs.Machine.Footing
import RouteScript.Proofs.Parser.Acceptance

/-!
Compiled programs have their operands.

The machine passes over an instruction that lacks operands, and over a name that
has no value. A compiled program does not depend on it, whatever the tokens were
and whatever was recorded about them: each piece of code that the parser emits is
supported (`blocks_supports`), also where a statement broke off.

`run_compileTokens_has_operands` says so of runs. They may start with any values on
the stack, with any names bound and in any mode, and may be aborted. What was on
the stack before is never looked at.
-/

namespace RouteScript

open Script RouteScript.Parser

/-! ### Support of the code -/

section Support

variable {f : Footing}

theorem operands_supports {operands : List Operand}
    (known : ∀ n ∈ operands.filterMap Operand.name?, n ∈ f.names) :
    f.Supports (operands.map Operand.code) ⟨f.depth + operands.length, f.names⟩ := by
  induction operands generalizing f with
  | nil => exact .nil f
  | cons o rest ih =>
    have pushed : f.after o.code = ⟨f.depth + 1, f.names⟩ := by
      cases o <;> rfl
    have later : ∀ n ∈ rest.filterMap Operand.name?, n ∈ f.names := by
      intro n hn
      rw [List.filterMap_cons] at known
      cases name : o.name? with
      | none => exact known n (by simpa [name] using hn)
      | some _ => exact known n (by simp [name, hn])
    refine .cons ?_ ?_ ?_
    · cases o <;> exact Nat.zero_le _
    · cases o with
      | text t =>
        intro n hn
        cases hn
      | name x =>
        rintro n ⟨⟩
        exact known x (by simp [Operand.name?])
    · rw [pushed, List.length_cons, ← Nat.add_assoc, Nat.add_right_comm]
      exact ih (f := ⟨f.depth + 1, f.names⟩) later

theorem joins_supports {joins : Nat} (deep : joins < f.depth) :
    f.Supports (List.replicate joins .concatenate) ⟨f.depth - joins, f.names⟩ := by
  induction joins generalizing f with
  | zero => exact .nil f
  | succ joins ih =>
    have joined : f.after .concatenate = ⟨f.depth - 1, f.names⟩ := by
      simp only [Footing.after, Instruction.needs, Instruction.leaves, Instruction.boundName?,
        Option.toList_none, List.nil_append, Footing.mk.injEq, and_true]
      omega
    refine .cons ?_ ?_ ?_
    · simp only [Instruction.needs]
      omega
    · intro n hn
      cases hn
    · rw [joined, Nat.add_comm, ← Nat.sub_sub]
      refine ih (f := ⟨f.depth - 1, f.names⟩) ?_
      simp only
      omega

/-- The code of an expression leaves its value and nothing else. -/
theorem Script.Expression.supports (e : Expression) (known : ∀ n ∈ e.names, n ∈ f.names) :
    f.Supports e.code ⟨f.depth + 1, f.names⟩ := by
  have some : 0 < e.operands.length := by
    cases e <;> simp [Expression.operands]
  have pushed := operands_supports (f := f) known
  have few : e.operands.length - 1 < f.depth + e.operands.length := by omega
  have joined := joins_supports (f := ⟨f.depth + e.operands.length, f.names⟩) few
  have one : f.depth + e.operands.length - (e.operands.length - 1) = f.depth + 1 := by omega
  simp only [one] at joined
  exact pushed.append joined

theorem body_supports (body : Option Expression) (known : ∀ n ∈ bodyNames body, n ∈ f.names) :
    f.Supports (bodyCode body) ⟨f.depth + if body.isSome then 1 else 0, f.names⟩ := by
  cases body with
  | none => exact .nil f
  | some e => exact e.supports known

/-- With URL, body and status there, the end of a request is supported. -/
theorem reaction_supports (reaction : Reaction) (method : Method) (hasBody : Bool)
    (known : ∀ n ∈ reaction.names, n ∈ f.names) (deep : 2 + (if hasBody then 1 else 0) ≤ f.depth) :
    ∃ g, f.Supports (reaction.code method hasBody) g ∧
      g.names = reaction.target?.toList ++ f.names := by
  cases reaction with
  | ignore => exact ⟨_, .nameless (i := .request ⟨.discard, method, hasBody⟩) deep rfl, rfl⟩
  | capture name =>
    have captured := Footing.Supports.nameless (i := .request ⟨.capture, method, hasBody⟩) deep rfl
    have bound := Footing.Supports.nameless (f := f.after (.request ⟨.capture, method, hasBody⟩))
      (i := .bindVariable name) (Nat.le_add_left 1 _) rfl
    exact ⟨_, captured.append bound, rfl⟩
  | compare e =>
    refine ⟨_, (e.supports known).append (.nameless (i := .request ⟨.compare, method, hasBody⟩) ?_ rfl),
      rfl⟩
    simp only [Instruction.needs, RequestForm.operands, if_true]
    omega

theorem statement_supports (s : Statement) (known : ∀ n ∈ s.reads, n ∈ f.names) :
    ∃ g, f.Supports s.code g ∧ g.names = s.target?.toList ++ f.names := by
  cases s with
  | assign name e =>
    exact ⟨_, (e.supports known).append (.nameless (i := .bindVariable name) (Nat.le_add_left 1 _) rfl),
      rfl⟩
  | print e =>
    exact ⟨_, (e.supports known).append (.nameless (i := .print) (Nat.le_add_left 1 _) rfl), rfl⟩
  | request method url body status reaction =>
    simp only [Statement.reads, List.mem_append] at known
    have hurl := url.supports fun n hn => known n (.inl (.inl hn))
    have hbody := body_supports (f := ⟨f.depth + 1, f.names⟩) body
      fun n hn => known n (.inl (.inr hn))
    have upTo := (hurl.append hbody).append
      (.nameless (i := .pushLiteral (status.getD "200")) (Nat.zero_le _) rfl)
    obtain ⟨g, hreaction, names⟩ := reaction_supports
      (f := ⟨f.depth + 1 + (if body.isSome then 1 else 0) + 1, f.names⟩) reaction method body.isSome
      (fun n hn => known n (.inr hn)) (by simp only; omega)
    exact ⟨g, upTo.append hreaction, names⟩

/-- Values that nothing uses stay where they are. -/
theorem values_supports (values : List Expression)
    (known : ∀ n ∈ values.flatMap Expression.names, n ∈ f.names) :
    ∃ g, f.Supports (values.flatMap Expression.code) g ∧ g.names = f.names := by
  induction values generalizing f with
  | nil => exact ⟨f, .nil f, rfl⟩
  | cons e rest ih =>
    simp only [List.flatMap_cons, List.mem_append] at known ⊢
    obtain ⟨g, later, names⟩ := ih (f := ⟨f.depth + 1, f.names⟩) fun n hn => known n (.inr hn)
    exact ⟨g, (e.supports fun n hn => known n (.inl hn)).append later, names⟩

theorem blocks_supports {blocks : List Block} (scope : Block.InScopeOf f.names blocks) :
    ∃ g, f.Supports (blocks.flatMap Block.code) g := by
  induction blocks generalizing f with
  | nil => exact ⟨f, .nil f⟩
  | cons b rest ih =>
    have here : ∃ g, f.Supports b.code g ∧ g.names = b.target?.toList ++ f.names := by
      cases b with
      | whole s => exact statement_supports s scope.1
      | broken values => exact values_supports values scope.1
    obtain ⟨g, first, names⟩ := here
    obtain ⟨h, later⟩ := ih (f := g) (by rw [names]; exact scope.2)
    exact ⟨h, first.append later⟩

end Support

/-- Whatever the tokens, the program is supported from nothing. -/
theorem compileTokens_supports (tokens : List Token) (d : Diagnostics) :
    ∃ g, Footing.Supports {} (compileTokens tokens d).program g := by
  obtain ⟨blocks, found, program, -, scope, -⟩ := compileTokens_blocks tokens d
  rw [program]
  exact blocks_supports scope

/-! ### Runs -/

open Machine

/-- Each instruction that is executed finds its operands among values of the run
itself, on top of what was on the stack before, and would do the same over
anything else. A name is read behind its binding in the same run, and has the value
that was on top then. -/
theorem run_compileTokens_has_operands {σ : Type} (tokens : List Token) (d : Diagnostics)
    (service : Service σ Empty) (m : Machine) (s : σ) {k : Nat}
    (executed : k < (run service (compileTokens tokens d).program m s).trace.length) :
    let program := (compileTokens tokens d).program
    let before := (run service program m s).before m
    ∃ i own, program[k]? = some i ∧ (before k).stack = own ++ m.stack ∧ i.needs ≤ own.length ∧
      (∀ below t, step service i { before k with stack := own ++ below } t =
        (step service i { before k with stack := own } t).above below) ∧
      ∀ n, i.readName? = some n → ∃ j v, j < k ∧ program[j]? = some (.bindVariable n) ∧
        (before j).stack.head? = some v ∧ (before k).bindings.lookup n = some v := by
  intro program before
  have inside : k < program.length :=
    Nat.lt_of_lt_of_le executed (run_trace_length service program m s)
  have played : ∀ j ≤ k, before j = (play service (program.take j) ({ m with cursor := 0 }, s)).1 := by
    intro j le
    exact before_eq service (Nat.le_trans le (Nat.le_of_lt executed))
  obtain ⟨g, supports⟩ := compileTokens_supports tokens d
  obtain ⟨f, stands, room, known⟩ :=
    Stands.of_supports service ({ m with cursor := 0 }, s) supports inside
  obtain ⟨own, stack, deep⟩ := stands.own
  have enough := Nat.le_trans room deep
  refine ⟨program[k], own, List.getElem?_eq_getElem inside, ?_, enough, ?_, ?_⟩
  · rw [played k (Nat.le_refl k), stack]
  · intro below t
    exact step_above service (m := { before k with stack := own }) enough below t
  · intro n read
    obtain ⟨j, v, bound, top, value⟩ := stands.bound n (known n read)
    have earlier : j < k := by
      have := (List.getElem?_eq_some_iff.mp bound).1
      rw [List.length_take] at this
      omega
    refine ⟨j, v, earlier, ?_, ?_, ?_⟩
    · rwa [List.getElem?_take_of_lt earlier] at bound
    · rw [played j (Nat.le_of_lt earlier), ← top, List.take_take, Nat.min_eq_left]
      exact Nat.le_of_lt earlier
    · rw [played k (Nat.le_refl k), value]

/-- The name of the second statement is read behind the binding of the first. -/
theorem run_compileTokens_has_operands_read :
    let here : Span := ⟨⟨1, 1⟩, ⟨1, 2⟩⟩
    let tokens : List Token := [⟨.identifier, here, "x"⟩, ⟨.equals, here, "="⟩,
      ⟨.string, here, "a"⟩, ⟨.print, here, "print"⟩, ⟨.identifier, here, "x"⟩]
    let silence : Service Unit Empty := { send := fun _ _ _ s => (.ok none, s) }
    let m : Machine := { stack := ["old"], bindings := [("x", "old")], blocking := true }
    let r := run silence (compileTokens tokens { file := "s" }).program m ()
    2 < r.trace.length ∧ ∃ own j v, (r.before m 2).stack = own ++ ["old"] ∧ j < 2 ∧
      (r.before m j).stack.head? = some v ∧ (r.before m 2).bindings.lookup "x" = some v := by
  intro here tokens silence m r
  have value : Expression.Spelled (.single (.text "a")) [⟨.string, here, "a"⟩] :=
    .single (.text (t := ⟨.string, here, "a"⟩) rfl)
  have read : Expression.Spelled (.single (.name "x")) [⟨.identifier, here, "x"⟩] :=
    .single (.name (t := ⟨.identifier, here, "x"⟩) rfl)
  let first : Sentence :=
    ⟨_, _, .assign (n := ⟨.identifier, here, "x"⟩) (k := ⟨.equals, here, "="⟩) rfl rfl value⟩
  let second : Sentence := ⟨_, _, .print (k := ⟨.print, here, "print"⟩) rfl read⟩
  have covers : Covers [first, second] tokens := by
    refine ⟨rfl, inScope_iff.mpr ?_⟩
    simp [InScopeOf, first, second, Statement.reads, Expression.names, Expression.operands,
      Operand.name?, Statement.target?]
  have program : (compileTokens tokens { file := "s" }).program =
      [.pushLiteral "a", .bindVariable "x", .readVariable "x", .print] := by
    rw [compileTokens_of_covers covers]
    rfl
  have executed : 2 < r.trace.length := by
    simp only [r, program]
    decide
  obtain ⟨i, own, at', stack, -, -, bound⟩ :=
    run_compileTokens_has_operands tokens { file := "s" } silence m () executed
  rw [program] at at'
  cases at'
  obtain ⟨j, v, earlier, -, top, value⟩ := bound "x" rfl
  exact ⟨executed, own, j, v, stack, earlier, top, value⟩

end RouteScript
