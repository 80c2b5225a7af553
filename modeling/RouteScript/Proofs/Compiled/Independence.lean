import RouteScript.Proofs.Compiled.Operands
import RouteScript.Proofs.Machine.Modes
import RouteScript.Proofs.Machine.Overlay

/-!
What a compiled program does not depend on.

Whatever the tokens were, the program that they compile to does the same on every
machine of the same modes (`run_compileTokens_on_any`): old values stay below its own,
old names keep their values unless it binds them, and the counters and the recorded
effects go on from where they were.

It also does the same in all output modes, apart from the effects that these leave out
(`run_compileTokens_in_any_mode`). That is not so for every program with operands. In
compiled code a print ends its statement, and no statement looks at a value that another
one left (`blocks_shares`).
-/

namespace RouteScript

open Machine Script RouteScript.Parser

/-! ### Machines that were used before -/

/-- Two machines of the same modes on which no route has failed, whatever else was done
on them: a compiled program runs on both to the same end, with the same requests. It
leaves the same values on top of those of each machine, records the same effects and
counts the same routes. A name that it binds on its way has the same value on both then;
any other name keeps the value that it had. -/
theorem run_compileTokens_on_any {σ : Type} (tokens : List Token) (d : Diagnostics)
    (server : Server σ) (m m' : Machine) (modes : m.modes = m'.modes) (clean : m.err = 0)
    (clean' : m'.err = 0) (s : σ) :
    let program := (compileTokens tokens d).program
    let r := run (ε := Empty) server.noting.service program m (s, [])
    let r' := run (ε := Empty) server.noting.service program m' (s, [])
    (r.ending = r'.ending ∧ r.trace.length = r'.trace.length ∧
      r.machine.cursor = r'.machine.cursor ∧ r.service = r'.service) ∧
    (∃ own shown passed failed,
      r.machine.stack = own ++ m.stack ∧ r'.machine.stack = own ++ m'.stack ∧
      r.machine.effects = m.effects ++ shown ∧ r'.machine.effects = m'.effects ++ shown ∧
      r.machine.ok = m.ok + passed ∧ r'.machine.ok = m'.ok + passed ∧
      r.machine.err = failed ∧ r'.machine.err = failed) ∧
    ∀ n, (.bindVariable n ∈ program.take r.trace.length →
        ∃ v, r.machine.bindings.lookup n = some v ∧ r'.machine.bindings.lookup n = some v) ∧
      (.bindVariable n ∉ program.take r.trace.length →
        r.machine.bindings.lookup n = m.bindings.lookup n ∧
          r'.machine.bindings.lookup n = m'.bindings.lookup n) := by
  intro program r r'
  obtain ⟨g, supports⟩ := compileTokens_supports tokens d
  let service : Service (σ × List Call) Empty := server.noting.service
  have same : m'.fresh = m.fresh := fresh_eq_of_modes modes.symm
  obtain ⟨ending, length, above, requests⟩ := run_overlays service supports m (s, []) fun _ => clean
  obtain ⟨ending', length', above', requests'⟩ :=
    run_overlays service supports m' (s, []) fun _ => clean'
  rw [same] at ending' length' above' requests'
  let own := run service program m.fresh (s, [])
  refine ⟨⟨?_, ?_, ?_, ?_⟩, ⟨own.machine.stack, own.machine.effects, own.machine.ok,
    own.machine.err, above.stack, above'.stack, above.effects, above'.effects, above.ok, above'.ok,
    ?_, ?_⟩, ?_⟩
  · exact ending.trans ending'.symm
  · exact length.trans length'.symm
  · exact above.cursor.trans above'.cursor.symm
  · exact requests.trans requests'.symm
  · rw [above.err, clean, Nat.zero_add]
  · rw [above'.err, clean', Nat.zero_add]
  · intro n
    obtain ⟨valued, -⟩ := run_lookup service supports m.fresh (s, []) n
    obtain ⟨-, kept⟩ := run_lookup service supports m (s, []) n
    obtain ⟨-, kept'⟩ := run_lookup service supports m' (s, []) n
    rw [← length] at valued
    rw [length', ← length] at kept'
    constructor
    · intro bound
      obtain ⟨v, value⟩ := valued bound
      refine ⟨v, ?_, ?_⟩
      · rw [above.values, value, Option.some_or]
      · rw [above'.values, value, Option.some_or]
    · intro unbound
      exact ⟨kept unbound, kept' unbound⟩

/-- A machine that was used before is stopped by the failed route where a fresh one is. Its
old value is still there, below the new one, and an old name that nothing binds has kept
its value. -/
theorem run_compileTokens_on_any_used :
    let here : Span := ⟨⟨1, 1⟩, ⟨1, 2⟩⟩
    let tokens : List Token := [⟨.identifier, here, "x"⟩, ⟨.equals, here, "="⟩,
      ⟨.string, here, "a"⟩, ⟨.get, here, "get"⟩, ⟨.identifier, here, "x"⟩, ⟨.print, here, "print"⟩,
      ⟨.identifier, here, "x"⟩]
    let deaf : Server Unit := fun _ _ _ s => (none, s)
    let used : Machine :=
      { stack := ["old"], bindings := [("x", "old"), ("y", "kept")], ok := 3, blocking := true }
    let unused : Machine := { blocking := true }
    let program := (compileTokens tokens { file := "s" }).program
    let r := run (ε := Empty) deaf.noting.service program used ((), [])
    (used.modes = unused.modes ∧ used.err = 0 ∧ unused.err = 0) ∧
      r.ending = .aborted ∧ r.service = ((), [⟨.get, "a", none⟩]) ∧
      r.machine.stack = ["a", "old"] ∧ r.machine.ok = 3 ∧ r.machine.err = 1 ∧
      r.machine.bindings.lookup "x" = some "a" ∧ r.machine.bindings.lookup "y" = some "kept" := by
  intro here tokens deaf used unused program r
  let r' := run (ε := Empty) deaf.noting.service program unused ((), [])
  have compiled : (compileTokens tokens { file := "s" }).program =
      [.pushLiteral "a", .bindVariable "x", .readVariable "x", .pushLiteral "200",
        .request ⟨.discard, .get, false⟩, .readVariable "x", .print] := by
    decide +kernel
  have left : r'.ending = .aborted ∧ r'.trace.length = 5 ∧ r'.service = ((), [⟨.get, "a", none⟩]) ∧
      r'.machine.stack = ["a"] ∧ r'.machine.ok = 0 ∧ r'.machine.err = 1 ∧
      r'.machine.bindings.lookup "x" = some "a" := by
    simp only [r', program, compiled]
    decide
  obtain ⟨ending', length', requests', stack', ok', err', x'⟩ := left
  obtain ⟨⟨ending, length, -, requests⟩, ⟨own, _, passed, failed, stack, own', -, -, ok, passed',
    err, failed'⟩, values⟩ :=
    run_compileTokens_on_any tokens { file := "s" } deaf used unused rfl rfl rfl ()
  rw [stack', List.append_nil] at own'
  rw [ok', Nat.zero_add] at passed'
  rw [err'] at failed'
  refine ⟨⟨rfl, rfl, rfl⟩, ending.trans ending', requests.trans requests', ?_, ?_, ?_, ?_, ?_⟩
  · rw [stack, ← own']
    rfl
  · rw [ok, ← passed']
  · rw [err, ← failed']
  · obtain ⟨v, value, value'⟩ := (values "x").1 (by rw [length, length', compiled]; decide)
    exact value.trans (value'.symm.trans x')
  · exact ((values "y").2 (by rw [length, length', compiled]; decide)).1

/-! ### Output modes -/

section Shares

variable {f : Footing}

theorem print_not_mem_code (e : Expression) : .print ∉ e.code := by
  intro printed
  rcases mem_code printed with ⟨o, code⟩ | code
  · cases o <;> cases code
  · cases code

theorem print_not_mem_request {method : Method} {url : Expression} {body : Option Expression}
    {status : Option String} {reaction : Reaction} :
    .print ∉ (Statement.request method url body status reaction).code := by
  intro printed
  simp only [Statement.code, List.mem_append, List.mem_singleton, reduceCtorEq, or_false] at printed
  rcases printed with (inUrl | inBody) | inReaction
  · exact print_not_mem_code url inUrl
  · cases body with
    | none => cases inBody
    | some e => exact print_not_mem_code e inBody
  · cases reaction with
    | ignore => simp [Reaction.code] at inReaction
    | capture name => simp [Reaction.code] at inReaction
    | compare e =>
      rcases List.mem_append.mp inReaction with inExpected | last
      · exact print_not_mem_code e inExpected
      · simp at last

/-- Each statement, or what is left of one, is supported alike in all modes. -/
theorem block_shares (b : Block) (known : ∀ n ∈ b.reads, n ∈ f.names) :
    ∃ g, f.Shares b.code g ∧ g.names = b.target?.toList ++ f.names := by
  cases b with
  | broken values =>
    obtain ⟨g, supports, names⟩ := values_supports values known
    refine ⟨g, supports.shares ?_, names⟩
    intro printed
    obtain ⟨e, -, code⟩ := List.mem_flatMap.mp printed
    exact print_not_mem_code e code
  | whole s =>
    cases s with
    | print e =>
      have value := (e.supports known).shares (print_not_mem_code e)
      exact ⟨_, value.append (.print (Nat.zero_lt_succ _)), rfl⟩
    | assign name e =>
      obtain ⟨g, supports, names⟩ := statement_supports (.assign name e) known
      refine ⟨g, supports.shares ?_, names⟩
      intro printed
      rcases List.mem_append.mp printed with inValue | last
      · exact print_not_mem_code e inValue
      · simp at last
    | request method url body status reaction =>
      obtain ⟨g, supports, names⟩ :=
        statement_supports (.request method url body status reaction) known
      exact ⟨g, supports.shares print_not_mem_request, names⟩

theorem blocks_shares {blocks : List Block} (scope : Block.InScopeOf f.names blocks) :
    ∃ g, f.Shares (blocks.flatMap Block.code) g := by
  induction blocks generalizing f with
  | nil => exact ⟨f, .nil f⟩
  | cons b rest ih =>
    obtain ⟨g, first, names⟩ := block_shares b scope.1
    obtain ⟨h, later⟩ := ih (f := g) (by rw [names]; exact scope.2)
    exact ⟨h, first.append later⟩

end Shares

/-- Whatever the tokens, the program that they compile to runs alike in all output modes:
to the same end, with the same requests, counts and names. The effects are those of the
run without modes, in order, without what a silent machine keeps from standard error and
a quiet one from standard output. -/
theorem run_compileTokens_in_any_mode {σ : Type} (tokens : List Token) (d : Diagnostics)
    (server : Server σ) (blocking silent quiet : Bool) (s : σ) :
    let program := (compileTokens tokens d).program
    let r := run (ε := Empty) server.noting.service program { blocking, silent, quiet } (s, [])
    let loud := run (ε := Empty) server.noting.service program { blocking } (s, [])
    r.ending = loud.ending ∧ r.trace.length = loud.trace.length ∧
      r.machine.cursor = loud.machine.cursor ∧ r.service = loud.service ∧
      r.machine.ok = loud.machine.ok ∧ r.machine.err = loud.machine.err ∧
      r.machine.bindings = loud.machine.bindings ∧
      r.machine.effects = loud.machine.effects.filter (Effect.audible silent quiet) := by
  intro program r loud
  obtain ⟨blocks, -, compiled, -, scope, -⟩ := compileTokens_blocks tokens d
  obtain ⟨g, shares⟩ := blocks_shares (f := {}) scope
  rw [← compiled] at shares
  obtain ⟨ending, length, modes, ⟨h, mutes⟩, requests⟩ :=
    run_mutes server.noting.service shares blocking silent quiet (s, [])
  refine ⟨ending, length, mutes.cursor, requests, mutes.ok, mutes.err, mutes.bindings, ?_⟩
  simp only [Machine.modes, Prod.mk.injEq] at modes
  have effects := mutes.effects
  rwa [modes.1, modes.2.1] at effects

end RouteScript
