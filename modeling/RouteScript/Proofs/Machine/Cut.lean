import RouteScript.Proofs.Machine.Change
import RouteScript.Proofs.Meaning

/-!
Where a run ends.

Without blocking, a run goes through its program. A blocking machine is cut off behind
the first instruction behind which a route has failed. `Cut` says this of a program and
a state, in terms of the states that the program is played through, and `runFrom_cut`
says that runs end where their cut is. There is only one such place, and it is the same
for two states in which the same instructions leave a failure (`Cut.unique`).

Blocking has no part in what an instruction does (`play_blocking`). So the run of a
blocking machine is the run of the same machine without blocking, up to the cut
(`run_blocking_eq_cut`).
-/

namespace RouteScript.Machine

variable {σ τ : Type}

/-! ### Failed routes -/

theorem turn_err_le (service : Service σ Empty) (c : Machine × σ) (i : Instruction) :
    c.1.err ≤ (turn service c i).1.err ∧ (turn service c i).1.err ≤ c.1.err + 1 := by
  obtain ⟨m, s⟩ := c
  rw [turn_eq]
  constructor
  · exact Nat.le_add_right ..
  · exact Nat.add_le_add_left (change_failed_le service s i m) _

/-- A failed route stays failed. -/
theorem play_err_le (service : Service σ Empty) (code : Program) (c : Machine × σ) :
    c.1.err ≤ (play service code c).1.err := by
  induction code generalizing c with
  | nil => exact Nat.le_refl _
  | cons i code ih => exact Nat.le_trans (turn_err_le service c i).1 (ih _)

theorem play_take_succ (service : Service σ Empty) {program : Program} {k : Nat}
    (inside : k < program.length) (c : Machine × σ) :
    play service (program.take (k + 1)) c =
      turn service (play service (program.take k) c) program[k] := by
  rw [List.take_succ_eq_append_getElem inside, play_snoc]

theorem play_cursor (service : Service σ Empty) (code : Program) (c : Machine × σ) :
    (play service code c).1.cursor = c.1.cursor + code.length := by
  induction code generalizing c with
  | nil => rfl
  | cons i code ih =>
    obtain ⟨m, s⟩ := c
    rw [play_cons, ih, turn_eq, List.length_cons, Nat.add_comm code.length, ← Nat.add_assoc]
    rfl

/-! ### Blocking -/

theorem turn_keeps_blocking (service : Service σ Empty) (c : Machine × σ) (i : Instruction) :
    (turn service c i).1.blocking = c.1.blocking := by
  have same := turn_modes service c i
  simp only [modes, Prod.mk.injEq] at same
  exact same.2.2

/-- No instruction asks whether the machine blocks. -/
theorem turn_blocking (service : Service σ Empty) (blocking : Bool) (c : Machine × σ)
    (i : Instruction) :
    turn service ({ c.1 with blocking }, c.2) i =
      ({ (turn service c i).1 with blocking }, (turn service c i).2) := by
  obtain ⟨m, s⟩ := c
  have same : change service i { m with blocking } s = change service i m s := by
    cases i <;> rfl
  rw [turn_eq, turn_eq, same]
  rfl

theorem play_blocking (service : Service σ Empty) (blocking : Bool) (code : Program)
    (c : Machine × σ) :
    play service code ({ c.1 with blocking }, c.2) =
      ({ (play service code c).1 with blocking }, (play service code c).2) := by
  induction code generalizing c with
  | nil => rfl
  | cons i code ih => rw [play_cons, turn_blocking, ih, play_cons]

/-! ### Cuts -/

/-- A program that is played from `c` comes to an end behind so many instructions. -/
inductive Cut (service : Service σ Empty) (program : Program) (c : Machine × σ) :
    Nat → Ending Empty → Prop where
  /-- The end of the program is reached; a blocking machine has met no failure. -/
  | through : (c.1.blocking = true →
      ∀ k < program.length, (play service (program.take (k + 1)) c).1.err = 0) →
      Cut service program c program.length .finished
  /-- Behind instruction number `i` there is a failure for the first time. -/
  | failed {i : Nat} : c.1.blocking = true → i < program.length →
      (∀ k < i, (play service (program.take (k + 1)) c).1.err = 0) →
      (play service (program.take (i + 1)) c).1.err ≠ 0 →
      Cut service program c (i + 1) .aborted

section Cut

variable {service : Service σ Empty} {i : Instruction} {rest program : Program}
  {c : Machine × σ} {k l : Nat} {ending ending' : Ending Empty}

/-- One more instruction in front, behind which a run goes on. -/
theorem Cut.cons (going : c.1.blocking = true → (turn service c i).1.err = 0)
    (cut : Cut service rest (turn service c i) k ending) :
    Cut service (i :: rest) c (k + 1) ending := by
  cases cut with
  | through clean =>
    rw [turn_keeps_blocking] at clean
    refine .through fun blocking k inside => ?_
    cases k with
    | zero => exact going blocking
    | succ k => exact clean blocking k (Nat.lt_of_succ_lt_succ inside)
  | failed blocking inside clean failure =>
    rw [turn_keeps_blocking] at blocking
    refine .failed blocking (Nat.succ_lt_succ inside) (fun k early => ?_) failure
    cases k with
    | zero => exact going blocking
    | succ k => exact clean k (Nat.lt_of_succ_lt_succ early)

/-- A run ends at its cut, in the state behind the instructions in front of it. -/
theorem runFrom_cut (service : Service σ Empty) (program : Program) (m : Machine) (s : σ) :
    let r := runFrom (step service) program m s
    Cut service program (m, s) r.trace.length r.ending ∧
      (r.machine, r.service) = play service (program.take r.trace.length) (m, s) := by
  induction program generalizing m s with
  | nil => exact ⟨.through fun _ => nofun, rfl⟩
  | cons i rest ih =>
    rw [runFrom_cons]
    simp only [turn_keeps_blocking]
    by_cases blocking : m.blocking = true
    · by_cases clean : (turn service (m, s) i).1.err = 0
      · obtain ⟨cut, final⟩ := ih (turn service (m, s) i).1 (turn service (m, s) i).2
        simp only [clean, bne_self_eq_false, Bool.and_false, Bool.false_eq_true, if_false]
        exact ⟨cut.cons fun _ => clean, final⟩
      · have failure : (m.blocking && (turn service (m, s) i).1.err != 0) = true := by
          simp [blocking, clean]
        simp only [failure, if_true]
        exact ⟨.failed (i := 0) blocking (Nat.zero_lt_succ _) nofun clean, rfl⟩
    · obtain ⟨cut, final⟩ := ih (turn service (m, s) i).1 (turn service (m, s) i).2
      simp only [blocking, Bool.false_and, Bool.false_eq_true, if_false]
      exact ⟨cut.cons fun block => absurd block blocking, final⟩

/-- Two states in which the same instructions leave a failure have the same cut. -/
theorem Cut.unique {service' : Service τ Empty} {c' : Machine × τ}
    (cut : Cut service program c k ending) (cut' : Cut service' program c' l ending')
    (blocking : c.1.blocking = c'.1.blocking)
    (errs : c.1.blocking = true → ∀ j < program.length,
      (play service (program.take (j + 1)) c).1.err = 0 ↔
        (play service' (program.take (j + 1)) c').1.err = 0) :
    k = l ∧ ending = ending' := by
  cases cut with
  | through clean =>
    cases cut' with
    | through clean' => exact ⟨rfl, rfl⟩
    | failed block inside _ failure =>
      have block := blocking.trans block
      exact absurd ((errs block _ inside).mp (clean block _ inside)) failure
  | @failed i block inside clean failure =>
    cases cut' with
    | through clean' =>
      exact absurd ((errs block _ inside).mpr (clean' (blocking.symm.trans block) _ inside)) failure
    | @failed j _ inside' clean' failure' =>
      rcases Nat.lt_trichotomy i j with before | rfl | behind
      · exact absurd ((errs block _ inside).mpr (clean' i before)) failure
      · exact ⟨rfl, rfl⟩
      · exact absurd ((errs block _ inside').mp (clean j behind)) failure'

/-- If the same instructions leave a failure in two runs of a program, both come to the
same end behind the same number of instructions. -/
theorem run_alike (service : Service σ Empty) {m n : Machine} (s t : σ)
    (blocking : m.blocking = n.blocking)
    (errs : m.blocking = true → ∀ j < program.length,
      (play service (program.take (j + 1)) ({ m with cursor := 0 }, s)).1.err = 0 ↔
        (play service (program.take (j + 1)) ({ n with cursor := 0 }, t)).1.err = 0) :
    let r := run service program m s
    let r' := run service program n t
    ∃ k ≤ program.length, r.trace.length = k ∧ r'.trace.length = k ∧ r.ending = r'.ending ∧
      (r.machine, r.service) = play service (program.take k) ({ m with cursor := 0 }, s) ∧
      (r'.machine, r'.service) = play service (program.take k) ({ n with cursor := 0 }, t) := by
  intro r r'
  obtain ⟨cut, final⟩ := runFrom_cut service program { m with cursor := 0 } s
  obtain ⟨cut', final'⟩ := runFrom_cut service program { n with cursor := 0 } t
  obtain ⟨length, ending⟩ := cut.unique cut' blocking errs
  have length : r.trace.length = r'.trace.length := length
  refine ⟨r.trace.length, run_trace_length service program m s, rfl, length.symm, ending, final, ?_⟩
  rw [length]
  exact final'

end Cut

/-! ### Blocking runs -/

section Blocking

variable {service : Service σ Empty} {program : Program}

/-- The first instruction to leave a failure leaves one failure. -/
theorem err_eq_one {c : Machine × σ} {i : Nat} (inside : i < program.length)
    (clean : (play service (program.take i) c).1.err = 0)
    (failure : (play service (program.take (i + 1)) c).1.err ≠ 0) :
    (play service (program.take (i + 1)) c).1.err = 1 := by
  have step := (turn_err_le service (play service (program.take i) c) program[i]).2
  rw [← play_take_succ service inside, clean] at step
  exact Nat.le_antisymm step (Nat.pos_of_ne_zero failure)

theorem play_take_err_le (service : Service σ Empty) (program : Program) (k : Nat)
    (c : Machine × σ) :
    (play service (program.take k) c).1.err ≤ (play service program c).1.err := by
  have later := play_err_le service (program.drop k) (play service (program.take k) c)
  rwa [← play_append, List.take_append_drop] at later

/-- A blocking run goes through the states `behind` so many instructions of the machine
that does not block. If none of them has a failure it comes to the end of the program;
otherwise it is aborted behind the first instruction to leave one. -/
theorem run_blocking (service : Service σ Empty) (program : Program) {m : Machine}
    (unused : m.err = 0) (s : σ) :
    let held := run service program { m with blocking := true } s
    let behind (k : Nat) := play service (program.take k) ({ m with cursor := 0 }, s)
    (held.machine = { (behind held.trace.length).1 with blocking := true } ∧
        held.service = (behind held.trace.length).2) ∧
      (held.ending = .finished ∧ held.trace.length = program.length ∧
          (∀ k ≤ program.length, (behind k).1.err = 0) ∨
        ∃ i < program.length, held.ending = .aborted ∧ held.trace.length = i + 1 ∧
          (∀ k ≤ i, (behind k).1.err = 0) ∧ (behind (i + 1)).1.err = 1) := by
  intro held behind
  have same (k : Nat) : play service (program.take k) ({ m with blocking := true, cursor := 0 }, s) =
      ({ (behind k).1 with blocking := true }, (behind k).2) :=
    play_blocking service true (program.take k) ({ m with cursor := 0 }, s)
  obtain ⟨cut, final⟩ := runFrom_cut service program { m with blocking := true, cursor := 0 } s
  have final : (held.machine, held.service) = _ := final.trans (same held.trace.length)
  refine ⟨⟨congrArg Prod.fst final, congrArg Prod.snd final⟩, ?_⟩
  -- A cut asks for the failures of the blocking machine, which are those of the other.
  have errs (k : Nat) :
      (play service (program.take k) ({ m with blocking := true, cursor := 0 }, s)).1.err =
        (behind k).1.err :=
    congrArg (·.1.err) (same k)
  change Cut _ _ _ held.trace.length held.ending at cut
  generalize held.trace.length = n, held.ending = ending at cut ⊢
  cases cut with
  | through calm =>
    refine .inl ⟨rfl, rfl, ?_⟩
    intro k le
    cases k with
    | zero => exact unused
    | succ k => exact (errs (k + 1)).symm.trans (calm rfl k le)
  | @failed i _ inside calm failure =>
    have clean : ∀ k ≤ i, (behind k).1.err = 0 := by
      intro k le
      cases k with
      | zero => exact unused
      | succ k => exact (errs (k + 1)).symm.trans (calm k le)
    refine .inr ⟨i, inside, rfl, rfl, clean, err_eq_one inside (clean i (Nat.le_refl i)) ?_⟩
    intro none
    exact failure ((errs (i + 1)).trans none)

end Blocking

/-- A run in blocking mode is the run without blocking, cut off behind the first
instruction behind which a route has failed. Here `behind k` is the state in which the
run without blocking leaves its first `k` instructions, with the requests made so far.

If no route fails, both runs are the same. Otherwise the blocking run is aborted behind
instruction number `i`, the first to leave a failure. It counts that one failure; its
machine and its requests are those of the other run at that point. -/
theorem run_blocking_eq_cut (server : Server σ) (program : Program) (silent quiet : Bool) (s : σ) :
    let m : Machine := { silent, quiet }
    let free := run (ε := Empty) server.noting.service program m (s, [])
    let held := run (ε := Empty) server.noting.service program { m with blocking := true } (s, [])
    let behind (k : Nat) := play server.noting.service (program.take k) (m, s, [])
    free.ending = .finished ∧ (free.machine, free.service) = behind program.length ∧
    (∀ k ≤ program.length, free.before m k = (behind k).1) ∧
    (free.machine.err = 0 ∧ held.ending = .finished ∧ held.trace.length = program.length ∧
        held.machine = { free.machine with blocking := true } ∧ held.service = free.service ∨
      free.machine.err ≠ 0 ∧ ∃ i < program.length,
        (∀ k ≤ i, (free.before m k).err = 0) ∧ (free.before m (i + 1)).err ≠ 0 ∧
        held.ending = .aborted ∧ held.trace.length = i + 1 ∧
        held.machine = { free.before m (i + 1) with blocking := true } ∧
        held.machine.err = 1 ∧ held.machine.cursor = i + 1 ∧
        held.service = (behind (i + 1)).2) := by
  intro m free held behind
  obtain ⟨ending, final, length⟩ :=
    run_of_not_blocking server.noting.service program (s, []) (m := m) rfl
  have whole : (free.machine, free.service) = behind program.length := by
    simp only [behind, List.take_length]
    exact final
  have reached : ∀ k ≤ program.length, free.before m k = (behind k).1 := by
    intro k le
    exact before_eq server.noting.service (Nat.le_trans le (Nat.le_of_eq length.symm))
  have free_machine : free.machine = (behind program.length).1 := congrArg Prod.fst whole
  have free_service : free.service = (behind program.length).2 := congrArg Prod.snd whole
  obtain ⟨⟨machine, requests⟩, how⟩ := run_blocking server.noting.service program (m := m) rfl (s, [])
  change held.machine = { (behind held.trace.length).1 with blocking := true } at machine
  change held.service = (behind held.trace.length).2 at requests
  refine ⟨ending, whole, reached, ?_⟩
  rcases how with ⟨finished, all, clean⟩ | ⟨i, inside, aborted, cut, clean, once⟩
  · change held.trace.length = program.length at all
    rw [all] at machine requests
    refine .inl ⟨?_, finished, all, ?_, ?_⟩
    · rw [free_machine]
      exact clean program.length (Nat.le_refl _)
    · rw [machine, free_machine]
    · rw [requests, free_service]
  · change held.trace.length = i + 1 at cut
    change (behind (i + 1)).1.err = 1 at once
    rw [cut] at machine requests
    refine .inr ⟨?_, i, inside, ?_, ?_, aborted, cut, ?_, ?_, ?_, requests⟩
    · have later := play_take_err_le server.noting.service program (i + 1) (m, s, [])
      change (behind (i + 1)).1.err ≤ _ at later
      have last : free.machine = (play server.noting.service program (m, s, [])).1 :=
        congrArg Prod.fst final
      rw [last]
      rw [once] at later
      exact Nat.ne_of_gt later
    · intro k le
      rw [reached k (Nat.le_trans le (Nat.le_of_lt inside))]
      exact clean k le
    · rw [reached (i + 1) inside, once]
      exact Nat.one_ne_zero
    · rw [reached (i + 1) inside, machine]
    · rw [machine, once]
    · rw [machine]
      have moved := play_cursor server.noting.service (program.take (i + 1)) (m, s, [])
      rw [List.length_take, Nat.min_eq_left inside] at moved
      exact moved.trans (Nat.zero_add _)

end RouteScript.Machine
