import RouteScript.Proofs.Machine.Cut

/-!
The output modes.

A silent machine records nothing for standard error and a quiet one nothing for standard
output, but a quiet machine also keeps on its stack what it should have printed. So its
stack is that of a machine without modes with more values in between, and a program that
looks below what it has pushed since the last print can tell the two apart.

`Footing.Shares` is the support of a program that does not: behind a print nothing is
known of the stack. Over such a program a machine mutes the one without modes
(`Mutes`): it does the same, up to values that nothing asks for, and leaves out effects.
That is kept by each instruction (`Mutes.turn`, `Mutes.print`), hence by runs
(`run_mutes`).
-/

namespace RouteScript

/-- Whether an effect is recorded in the given modes. -/
def Effect.audible (silent quiet : Bool) (e : Effect) : Bool :=
  !(silent && e.topic = "stderr") && !(quiet && e.topic = "stdout")

/-! ### Footings that are shared -/

namespace Footing

/-- What is known behind an instruction, of machines in any mode: behind a print they may
have no value in common. -/
def shared (f : Footing) (i : Instruction) : Footing :=
  if i = .print then ⟨0, f.names⟩ else f.after i

/-- From `f` on each instruction has what it needs in any mode, and `g` is known behind
the last. -/
inductive Shares : Footing → Program → Footing → Prop where
  | nil (f : Footing) : Shares f [] f
  | cons {f g : Footing} {i : Instruction} {rest : Program} :
      i.needs ≤ f.depth → (∀ n ∈ i.readName?, n ∈ f.names) → Shares (f.shared i) rest g →
      Shares f (i :: rest) g

variable {f g h : Footing} {code more : Program}

theorem Shares.append (first : f.Shares code g) (second : g.Shares more h) :
    f.Shares (code ++ more) h := by
  induction first with
  | nil f => exact second
  | cons room known _ ih => exact .cons room known (ih second)

/-- Code that prints nothing is supported alike in all modes. -/
theorem Supports.shares (supports : f.Supports code g) (printless : .print ∉ code) :
    f.Shares code g := by
  induction supports with
  | nil f => exact .nil f
  | @cons f g i rest room known _ ih =>
    simp only [List.mem_cons, not_or] at printless
    have same : f.shared i = f.after i := if_neg fun print => printless.1 print.symm
    refine .cons room known ?_
    rw [same]
    exact ih printless.2

theorem Shares.print (room : 0 < f.depth) : f.Shares [.print] ⟨0, f.names⟩ :=
  .cons room nofun (.nil _)

end Footing

namespace Machine

variable {σ : Type}

/-- The names of a footing have values. -/
def Named (f : Footing) (m : Machine) : Prop :=
  ∀ n ∈ f.names, ∃ v, m.bindings.lookup n = some v

/-- `m` did what `loud` did, without the effects that its modes leave out. As far as the
footing goes both have the same values on top. -/
structure Mutes (f : Footing) (m loud : Machine) : Prop where
  top : ∃ own below below', m.stack = own ++ below ∧ loud.stack = own ++ below' ∧
    f.depth ≤ own.length
  named : loud.Named f
  bindings : m.bindings = loud.bindings
  ok : m.ok = loud.ok
  err : m.err = loud.err
  cursor : m.cursor = loud.cursor
  modeless : loud.silent = false ∧ loud.quiet = false
  recorded : m.recorded = loud.recorded.filter (Effect.audible m.silent m.quiet)

theorem Mutes.effects {f : Footing} {m loud : Machine} (mutes : Mutes f m loud) :
    m.effects = loud.effects.filter (Effect.audible m.silent m.quiet) := by
  rw [Machine.effects, mutes.recorded, Machine.effects, List.filter_reverse]

section Turns

variable {service : Service σ Empty} {f : Footing} {m loud : Machine} {i : Instruction} {s : σ}

/-- A binding gives its name a value, and no instruction takes one away. -/
theorem Named.turn (named : m.Named f) (enough : i.needs ≤ m.stack.length) :
    (Machine.turn service (m, s) i).1.Named (f.after i) := by
  intro n known
  simp only [Machine.turn, step_bindings]
  cases bound : i.boundName? with
  | none =>
    simp only [Footing.after, bound, Option.toList_none, List.nil_append] at known
    exact named n known
  | some name =>
    cases stack : m.stack with
    | nil =>
      cases i <;> simp [Instruction.boundName?, Instruction.needs, stack] at bound enough
    | cons top rest =>
      by_cases same : n = name
      · subst same
        exact ⟨top, Assoc.lookup_set_self ..⟩
      · simp only [Footing.after, bound, Option.toList_some, List.singleton_append,
          List.mem_cons, same, false_or] at known
        obtain ⟨v, value⟩ := named n known
        exact ⟨v, (Assoc.lookup_set_of_ne same ..).trans value⟩

/-- Only a print tells anything on standard output. -/
theorem change_tells (other : i ≠ .print) :
    ∀ e ∈ (change service i m s).1.tells, e.topic = "stderr" := by
  intro e told
  cases i with
  | print => exact absurd rfl other
  | pushLiteral text => cases told
  | bindVariable name => cases told
  | readVariable name => cases told
  | concatenate =>
    simp only [change] at told
    split at told <;> cases told
  | request r =>
    rcases change_request service s r m with ⟨-, eq⟩ | ⟨o, reply, s', -, -, eq⟩
    · rw [eq] at told
      cases told
    · rw [eq] at told
      obtain ⟨reason, -, rfl⟩ := Option.map_eq_some_iff.mp told
      rfl

/-- What a request tells is recorded unless the machine is silent. -/
theorem Mutes.tells (mutes : Mutes f m loud) {c : Change}
    (stderr : ∀ e ∈ c.tells, e.topic = "stderr") :
    (m.changed c).recorded =
      (loud.changed c).recorded.filter (Effect.audible m.silent m.quiet) := by
  simp only [changed, List.filter_append, List.filter_filter, mutes.recorded]
  congr 1
  apply List.filter_congr
  intro e told
  have topic := stderr e (Option.mem_toList.mp told)
  simp [keeps, Effect.audible, topic, mutes.modeless.1]

/-- Any instruction but a print does the same in all modes. -/
theorem Mutes.turn (mutes : Mutes f m loud) (other : i ≠ .print) (room : i.needs ≤ f.depth)
    (known : ∀ n ∈ i.readName?, n ∈ f.names) :
    Mutes (f.after i) (Machine.turn service (m, s) i).1 (Machine.turn service (loud, s) i).1 ∧
      (Machine.turn service (m, s) i).2 = (Machine.turn service (loud, s) i).2 := by
  obtain ⟨own, below, below', stack, stack', deep⟩ := mutes.top
  have enough : i.needs ≤ own.length := Nat.le_trans room deep
  have bound : ∀ n ∈ i.readName?, ∃ v, m.bindings.lookup n = some v := by
    intro n read
    rw [mutes.bindings]
    exact mutes.named n (known n read)
  have same : change service i m s = change service i loud s :=
    change_eq_of_top service s stack stack' enough (fun n _ => by rw [mutes.bindings])
      fun print => absurd print other
  have named : (Machine.turn service (loud, s) i).1.Named (f.after i) := by
    apply mutes.named.turn
    rw [stack', List.length_append]
    exact Nat.le_trans enough (Nat.le_add_right ..)
  have few := Nat.le_trans (change_takes_le service s i loud) enough
  have length := change_length service s stack enough bound
  rw [turn_eq] at named
  rw [turn_eq, turn_eq, same]
  rw [same] at length
  refine ⟨⟨⟨_, below, below', changed_stack stack few, changed_stack stack' few, ?_⟩, named,
    ?_, ?_, ?_, ?_, mutes.modeless, ?_⟩, rfl⟩
  · simp only [Footing.after]
    omega
  · simp only [changed, mutes.bindings]
  · simp only [changed, mutes.ok]
  · simp only [changed, mutes.err]
  · simp only [changed, mutes.cursor]
  · exact mutes.tells (change_tells other)

/-- Behind a print only the stacks differ. -/
theorem Mutes.print (mutes : Mutes f m loud) (room : 0 < f.depth) :
    Mutes ⟨0, f.names⟩ (Machine.turn service (m, s) .print).1
        (Machine.turn service (loud, s) .print).1 ∧
      (Machine.turn service (m, s) .print).2 = (Machine.turn service (loud, s) .print).2 := by
  obtain ⟨own, below, below', stack, stack', deep⟩ := mutes.top
  obtain ⟨-, quiet⟩ := mutes.modeless
  cases own with
  | nil => exact absurd (Nat.lt_of_lt_of_le room deep) (Nat.lt_irrefl 0)
  | cons top own =>
    let shown : Change := { takes := 1, tells := some ⟨"stdout", top⟩ }
    have told : (loud.changed shown).recorded = ⟨"stdout", top⟩ :: loud.recorded := by
      simp [shown, changed, keeps]
    have fields : ∀ c : Change, c.binds = none → c.passed = 0 → c.failed = 0 →
        (m.changed c).recorded =
          (loud.changed shown).recorded.filter (Effect.audible m.silent m.quiet) →
        Mutes ⟨0, f.names⟩ (m.changed c) (loud.changed shown) := by
      intro c binds passed failed recorded
      refine ⟨⟨[], _, _, rfl, rfl, Nat.le_refl 0⟩, mutes.named, ?_, ?_, ?_, ?_, mutes.modeless,
        recorded⟩
      · simp only [changed, binds, shown, Option.elim_none, mutes.bindings]
      · simp only [changed, passed, shown, mutes.ok]
      · simp only [changed, failed, shown, mutes.err]
      · simp only [changed, mutes.cursor]
    rw [turn_eq, turn_eq]
    simp only [change, stack, stack', quiet, List.cons_append]
    cases hushed : m.quiet with
    | true =>
      refine ⟨fields {} rfl rfl rfl ?_, rfl⟩
      rw [told]
      simpa [changed, Effect.audible, hushed] using mutes.recorded
    | false =>
      refine ⟨fields shown rfl rfl rfl ?_, rfl⟩
      rw [told]
      simpa [shown, changed, keeps, Effect.audible, hushed] using mutes.recorded

end Turns

/-! ### Runs -/

section Runs

variable (service : Service σ Empty) {f g : Footing} {m loud : Machine}

/-- Over shared code the modes make no difference but to the effects, at any point. -/
theorem Mutes.play {code : Program} (mutes : Mutes f m loud) (shares : f.Shares code g) (s : σ)
    (k : Nat) :
    ∃ h, Mutes h (Machine.play service (code.take k) (m, s)).1
        (Machine.play service (code.take k) (loud, s)).1 ∧
      (Machine.play service (code.take k) (m, s)).2 =
        (Machine.play service (code.take k) (loud, s)).2 := by
  induction shares generalizing m loud s k with
  | nil f => exact ⟨f, by simpa using mutes, by simp⟩
  | @cons f g i rest room known _ ih =>
    cases k with
    | zero => exact ⟨f, mutes, rfl⟩
    | succ k =>
      simp only [List.take_succ_cons, play_cons]
      have turned : Mutes (f.shared i) (Machine.turn service (m, s) i).1
            (Machine.turn service (loud, s) i).1 ∧
          (Machine.turn service (m, s) i).2 = (Machine.turn service (loud, s) i).2 := by
        by_cases print : i = .print
        · subst print
          exact mutes.print room
        · rw [Footing.shared, if_neg print]
          exact mutes.turn print room known
      obtain ⟨next, same⟩ := turned
      generalize Machine.turn service (m, s) i = c at next same ⊢
      generalize Machine.turn service (loud, s) i = c' at next same ⊢
      obtain ⟨m', t⟩ := c
      obtain ⟨loud', t'⟩ := c'
      cases same
      exact ih next t k

/-- A program that is shared runs alike in all modes, to the same end. -/
theorem run_mutes {program : Program} (shares : Footing.Shares {} program g)
    (blocking silent quiet : Bool) (s : σ) :
    let r := run service program { blocking, silent, quiet } s
    let loud := run service program { blocking } s
    r.ending = loud.ending ∧ r.trace.length = loud.trace.length ∧
      r.machine.modes = (silent, quiet, blocking) ∧ (∃ h, Mutes h r.machine loud.machine) ∧
      r.service = loud.service := by
  intro r loud
  let m : Machine := { blocking, silent, quiet }
  let plain : Machine := { blocking }
  have start : Mutes {} m plain :=
    ⟨⟨[], [], [], rfl, rfl, Nat.le_refl 0⟩, nofun, rfl, rfl, rfl, rfl, ⟨rfl, rfl⟩, rfl⟩
  have errs : m.blocking = true → ∀ j < program.length,
      (Machine.play service (program.take (j + 1)) (m, s)).1.err = 0 ↔
        (Machine.play service (program.take (j + 1)) (plain, s)).1.err = 0 := by
    intro _ j _
    obtain ⟨_, mutes, -⟩ := start.play service shares s (j + 1)
    rw [mutes.err]
  obtain ⟨k, -, length, length', ending, final, final'⟩ :=
    run_alike service (m := m) (n := plain) s s rfl errs
  obtain ⟨h, mutes, same⟩ := start.play service shares s k
  have modes := play_modes service (program.take k) (m, s)
  rw [← final, ← final'] at mutes same
  rw [← final] at modes
  exact ⟨ending, length.trans length'.symm, modes, ⟨h, mutes⟩, same⟩

end Runs

end Machine

end RouteScript
