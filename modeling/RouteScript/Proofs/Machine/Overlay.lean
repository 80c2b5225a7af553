import RouteScript.Proofs.Machine.Cut

/-!
A run on a machine that was used before.

The stack, the names, the counters and the recorded effects of a machine stay when it
takes up a program. For a program that has its operands they might as well not be there:
what the run does is what it does on a fresh machine of the same modes, laid over what
was there before (`Overlays`). That is kept by each instruction (`Overlays.turn`), hence
by runs (`run_overlays`); a blocking machine has to start without a failed route, or it
is stopped by the old one. And a program does behind another one what it does alone
(`play_append_overlays`).
-/

namespace RouteScript

namespace Machine

variable {σ : Type}

/-- A machine of the same modes on which nothing was done. -/
def fresh (m : Machine) : Machine :=
  { silent := m.silent, quiet := m.quiet, blocking := m.blocking }

theorem fresh_eq_of_modes {m n : Machine} (same : m.modes = n.modes) : m.fresh = n.fresh := by
  simp only [modes, Prod.mk.injEq] at same
  simp only [fresh, same]

/-- `m` is what was done on `own`, over what was there on `base` before. -/
structure Overlays (m own base : Machine) : Prop where
  modes : m.modes = own.modes
  cursor : m.cursor = base.cursor + own.cursor
  stack : m.stack = own.stack ++ base.stack
  values : ∀ n, m.bindings.lookup n = (own.bindings.lookup n).or (base.bindings.lookup n)
  ok : m.ok = base.ok + own.ok
  err : m.err = base.err + own.err
  recorded : m.recorded = own.recorded ++ base.recorded

theorem Overlays.fresh (m : Machine) : m.Overlays m.fresh m :=
  ⟨rfl, rfl, rfl, fun _ => rfl, rfl, rfl, rfl⟩

section Overlays

variable {service : Service σ Empty} {m own base : Machine} {i : Instruction} {s : σ}

theorem Overlays.effects (above : m.Overlays own base) : m.effects = base.effects ++ own.effects := by
  simp [Machine.effects, above.recorded]

/-- The same change on top. -/
theorem Overlays.changed (above : m.Overlays own base) {c : Change} (few : c.takes ≤ own.stack.length) :
    (m.changed c).Overlays (own.changed c) base where
  modes := above.modes
  cursor := by simp only [Machine.changed, above.cursor, Nat.add_assoc]
  stack := changed_stack above.stack few
  values n := by
    cases binds : c.binds with
    | none => simpa [Machine.changed, binds] using above.values n
    | some bound =>
      obtain ⟨name, v⟩ := bound
      simp only [Machine.changed, binds, Option.elim_some]
      by_cases same : n = name
      · subst same
        simp [Assoc.lookup_set_self]
      · rw [Assoc.lookup_set_of_ne same, Assoc.lookup_set_of_ne same, above.values n]
  ok := by simp only [Machine.changed, above.ok, Nat.add_assoc]
  err := by simp only [Machine.changed, above.err, Nat.add_assoc]
  recorded := by
    have silent : m.silent = own.silent := congrArg Prod.fst above.modes
    have same : m.keeps = own.keeps := by
      funext e
      simp only [keeps, silent]
    simp only [Machine.changed, same, above.recorded, List.append_assoc]

/-- An instruction that has its operands does the same on top of anything. -/
theorem Overlays.turn (above : m.Overlays own base) (enough : i.needs ≤ own.stack.length)
    (bound : ∀ n ∈ i.readName?, ∃ v, own.bindings.lookup n = some v) :
    (Machine.turn service (m, s) i).1.Overlays (Machine.turn service (own, s) i).1 base ∧
      (Machine.turn service (m, s) i).2 = (Machine.turn service (own, s) i).2 := by
  have values : ∀ n ∈ i.readName?, m.bindings.lookup n = own.bindings.lookup n := by
    intro n read
    obtain ⟨v, value⟩ := bound n read
    rw [above.values, value]
    rfl
  have quiet : m.quiet = own.quiet := congrArg (·.2.1) above.modes
  have same : change service i m s = change service i own s :=
    change_eq_of_top service s above.stack (List.append_nil _).symm enough values fun _ => quiet
  rw [turn_eq, turn_eq, same]
  exact ⟨above.changed (Nat.le_trans (change_takes_le service s i own) enough), rfl⟩

end Overlays

/-! ### Runs -/

section Runs

variable (service : Service σ Empty) {program : Program} {g : Footing}

/-- A supported program does the same on top of anything. -/
theorem play_overlays (supports : Footing.Supports {} program g) (m : Machine) (s : σ) {k : Nat}
    (le : k ≤ program.length) :
    let all := play service (program.take k) (m, s)
    let own := play service (program.take k) (m.fresh, s)
    all.1.Overlays own.1 m ∧ all.2 = own.2 := by
  induction k with
  | zero => exact ⟨.fresh m, rfl⟩
  | succ k ih =>
    obtain ⟨above, same⟩ := ih (Nat.le_of_succ_le le)
    obtain ⟨f, stands, room, known⟩ := Stands.of_supports service (m.fresh, s) supports le
    obtain ⟨own, stack, deep⟩ := stands.own
    simp only [play_take_succ service le]
    generalize play service (program.take k) (m, s) = all at above same ⊢
    generalize eq : play service (program.take k) (m.fresh, s) = c at above same stack ⊢
    obtain ⟨all, t⟩ := all
    obtain ⟨alone, s'⟩ := c
    cases same
    apply above.turn
    · rw [stack, List.length_append]
      exact Nat.le_trans (Nat.le_trans room deep) (Nat.le_add_right ..)
    · intro n read
      obtain ⟨-, v, -, -, value⟩ := stands.bound n (known n read)
      rw [eq] at value
      exact ⟨v, value⟩

/-- A supported program does behind another one what it does alone. -/
theorem play_append_overlays (supports : Footing.Supports {} program g) (first : Program)
    (m : Machine) (s : σ) :
    let before := play service first (m.fresh, s)
    let own := play service program (m.fresh, before.2)
    let whole := play service (first ++ program) (m.fresh, s)
    whole.1.Overlays own.1 before.1 ∧ whole.2 = own.2 := by
  intro before own whole
  have modes : before.1.modes = m.fresh.modes := play_modes service first (m.fresh, s)
  have same : before.1.fresh = m.fresh := fresh_eq_of_modes modes
  have later := play_overlays service supports before.1 before.2 (Nat.le_refl _)
  rw [List.take_length, same] at later
  simp only [whole, play_append]
  exact later

/-- A supported program is run on any machine as it is on a fresh one, over what was
there before. -/
theorem run_overlays (supports : Footing.Supports {} program g) (m : Machine) (s : σ)
    (clean : m.blocking = true → m.err = 0) :
    let r := run service program m s
    let own := run service program m.fresh s
    r.ending = own.ending ∧ r.trace.length = own.trace.length ∧
      r.machine.Overlays own.machine { m with cursor := 0 } ∧ r.service = own.service := by
  intro r own
  have errs : m.blocking = true → ∀ j < program.length,
      (play service (program.take (j + 1)) ({ m with cursor := 0 }, s)).1.err = 0 ↔
        (play service (program.take (j + 1)) (m.fresh, s)).1.err = 0 := by
    intro blocking j inside
    have above := (play_overlays service supports { m with cursor := 0 } s inside).1
    rw [above.err, clean blocking, Nat.zero_add]
    rfl
  obtain ⟨k, le, length, length', ending, final, final'⟩ :=
    run_alike service (m := m) (n := m.fresh) s s rfl errs
  obtain ⟨above, same⟩ := play_overlays service supports { m with cursor := 0 } s le
  have started : { m with cursor := 0 }.fresh = m.fresh := rfl
  change (own.machine, own.service) = play service (program.take k) (m.fresh, s) at final'
  rw [started, ← final, ← final'] at above same
  exact ⟨ending, length.trans length'.symm, above, same⟩

end Runs

/-! ### Bound names -/

theorem boundName?_eq_some {i : Instruction} {n : String} :
    i.boundName? = some n ↔ i = .bindVariable n := by
  cases i <;> simp [Instruction.boundName?]

/-- The names that are known behind some code are those known before and those that it
binds. -/
theorem mem_names_of_supports {f g : Footing} {code : Program} (supports : f.Supports code g)
    (n : String) : n ∈ g.names ↔ .bindVariable n ∈ code ∨ n ∈ f.names := by
  induction supports with
  | nil f => simp
  | @cons f g i rest _ _ _ ih =>
    rw [ih]
    simp only [Footing.after, List.mem_append, Option.mem_toList, boundName?_eq_some,
      List.mem_cons, eq_comm (a := i)]
    rw [or_left_comm, or_assoc]

/-- A name that is not bound keeps its value. -/
theorem play_lookup_of_not_mem (service : Service σ Empty) {code : Program} {n : String}
    (unbound : .bindVariable n ∉ code) (c : Machine × σ) :
    (play service code c).1.bindings.lookup n = c.1.bindings.lookup n := by
  induction code generalizing c with
  | nil => rfl
  | cons i code ih =>
    simp only [List.mem_cons, not_or] at unbound
    rw [play_cons, ih unbound.2]
    simp only [turn, step_bindings]
    split
    · next name top rest bound _ =>
      have ne : n ≠ name := by
        rintro rfl
        exact unbound.1 (boundName?_eq_some.mp bound).symm
      exact Assoc.lookup_set_of_ne ne ..
    · rfl

/-- A name that is bound by a supported program has a value then. -/
theorem play_lookup_of_mem (service : Service σ Empty) {program : Program} {g : Footing}
    (supports : Footing.Supports {} program g) {k : Nat} {n : String}
    (bound : .bindVariable n ∈ program.take k) (c : Machine × σ) :
    ∃ v, (play service (program.take k) c).1.bindings.lookup n = some v := by
  rw [← List.take_append_drop k program] at supports
  obtain ⟨f, first, -⟩ := supports.split
  have stands := (Stands.start service c).append first
  rw [List.nil_append] at stands
  obtain ⟨-, v, -, -, value⟩ := stands.bound n ((mem_names_of_supports first n).mpr (.inl bound))
  exact ⟨v, value⟩

/-- Behind a run of a supported program a name has a value if it was bound on the way,
and otherwise the value that it had. -/
theorem run_lookup (service : Service σ Empty) {program : Program} {g : Footing}
    (supports : Footing.Supports {} program g) (m : Machine) (s : σ) (n : String) :
    let r := run service program m s
    (.bindVariable n ∈ program.take r.trace.length → ∃ v, r.machine.bindings.lookup n = some v) ∧
      (.bindVariable n ∉ program.take r.trace.length →
        r.machine.bindings.lookup n = m.bindings.lookup n) := by
  intro r
  have final := (runFrom_cut service program { m with cursor := 0 } s).2
  have machine : r.machine =
      (play service (program.take r.trace.length) ({ m with cursor := 0 }, s)).1 :=
    congrArg Prod.fst final
  rw [machine]
  constructor
  · intro bound
    exact play_lookup_of_mem service supports bound _
  · intro unbound
    exact play_lookup_of_not_mem service unbound _

end Machine

end RouteScript
