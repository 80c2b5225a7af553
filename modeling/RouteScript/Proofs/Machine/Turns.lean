import RouteScript.Machine.Run

/-!
Runs, turn by turn.

What an instruction can do over any service is said once, by `request_or_step_eq` for all but
requests and by `step_request` for those.

A service of type `Service σ Empty` answers every request, with a reply or with
none: there is nothing that it could pass on. Over such a service each instruction
of a run is completed, in a `turn` that ends with the cursor on the next one, and
the state behind a piece of code is `play`.

`before_eq` says what a run looks like from within: the machine on which
instruction number `k` is executed is the one behind the first `k` instructions. A
machine that does not block plays its program to the end
(`run_of_not_blocking`).
-/

namespace RouteScript

/-- The machine on which instruction number `k` of a run from `m` is executed. -/
def Run.before {σ ε : Type} (r : Run σ ε) (m : Machine) : Nat → Machine
  | 0 => { m with cursor := 0 }
  | k + 1 => (r.trace[k]?).elim m fun t => { t with cursor := t.cursor + 1 }

namespace Machine

variable {σ ε : Type}

/-! ### Instructions -/

/-- An instruction is a request, or it has to do with nothing but the stack, the names and, if
the machine is not quiet, the effects. -/
theorem request_or_step_eq (service : Service σ ε) (i : Instruction) (m : Machine) :
    (∃ r, i = .request r) ∨ ∃ stack bindings recorded, (m.quiet = true → recorded = m.recorded) ∧
      ∀ s, step service i m s = ⟨{ m with stack, bindings, recorded }, s, none⟩ := by
  cases i with
  | pushLiteral text => exact .inr ⟨_, _, _, fun _ => rfl, fun _ => rfl⟩
  | bindVariable name =>
    simp only [step]
    split <;> exact .inr ⟨_, _, _, fun _ => rfl, fun _ => rfl⟩
  | readVariable name =>
    simp only [step]
    split <;> exact .inr ⟨_, _, _, fun _ => rfl, fun _ => rfl⟩
  | concatenate =>
    simp only [step]
    split <;> exact .inr ⟨_, _, _, fun _ => rfl, fun _ => rfl⟩
  | print =>
    simp only [step]
    split
    · next loud _ =>
      refine .inr ⟨_, _, _, fun quiet => ?_, fun _ => rfl⟩
      rw [loud] at quiet
      cases quiet
    · exact .inr ⟨_, _, _, fun _ => rfl, fun _ => rfl⟩
  | request r => exact .inl ⟨r, rfl⟩

/-- A request lacks operands, or it is sent. Then its reply is settled, unless there is a failure
to pass on, of the service or over the status: that leaves the URL on the stack. -/
theorem step_request (service : Service σ ε) (r : RequestForm) (m : Machine) (s : σ) :
    (r.operands? m.stack = none ∧
        step service (.request r) m s = ⟨{ m with err := m.err + 1 }, s, none⟩) ∨
      ∃ o, r.operands? m.stack = some o ∧
        let waiting := { m with stack := o.url :: o.below }
        let answer := service.send r.method o.url o.body s
        (∃ e, (answer.1 = .error e ∨
              ∃ reply, answer.1 = .ok reply ∧ service.unwritable? reply = some e) ∧
            step service (.request r) m s = ⟨waiting, answer.2, some e⟩) ∨
          ∃ reply, answer.1 = .ok reply ∧ service.unwritable? reply = none ∧
            step service (.request r) m s = ⟨waiting.settle r o reply, answer.2, none⟩ := by
  cases taken : r.operands? m.stack with
  | none => exact .inl ⟨rfl, by simp only [step, request, taken]⟩
  | some o =>
    refine .inr ⟨o, rfl, ?_⟩
    rcases answer : service.send r.method o.url o.body s with ⟨e | reply, s'⟩
    · exact .inl ⟨e, .inl rfl, by simp only [step, request, taken, answer]⟩
    · cases passed : service.unwritable? reply with
      | some e =>
        exact .inl ⟨e, .inr ⟨reply, rfl, passed⟩,
          by simp only [step, request, taken, answer, passed]⟩
      | none =>
        exact .inr ⟨reply, rfl, passed, by simp only [step, request, taken, answer, passed]⟩

/-! ### Modes

No instruction changes a mode. -/

/-- The modes of a machine: silent, quiet and blocking. -/
def modes (m : Machine) : Bool × Bool × Bool := (m.silent, m.quiet, m.blocking)

theorem routeError_modes (m : Machine) (method : Method) (url reason : String) :
    (m.routeError method url reason).modes = m.modes := by
  unfold routeError
  split <;> rfl

theorem settle_modes (m : Machine) (r : RequestForm) (o : Operands) (reply : Option Reply) :
    (m.settle r o reply).modes = m.modes := by
  unfold settle
  cases failure? o reply with
  | none => rfl
  | some reason => exact routeError_modes m r.method o.url reason

theorem step_modes (service : Service σ ε) (i : Instruction) (m : Machine) (s : σ) :
    (step service i m s).machine.modes = m.modes := by
  rcases request_or_step_eq service i m with ⟨r, rfl⟩ | ⟨stack, bindings, recorded, -, eq⟩
  · rcases step_request service r m s with ⟨-, eq⟩ | ⟨o, -, ⟨e, -, eq⟩ | ⟨reply, -, -, eq⟩⟩
    · rw [eq]
      rfl
    · rw [eq]
      rfl
    · rw [eq]
      exact settle_modes _ r o reply
  · rw [eq]
    rfl

/-! ### Turns -/

/-- Executes an instruction and moves the cursor on. -/
def turn (service : Service σ Empty) (c : Machine × σ) (i : Instruction) : Machine × σ :=
  let p := step service i c.1 c.2
  ({ p.machine with cursor := p.machine.cursor + 1 }, p.service)

/-- The state behind some instructions. -/
def play (service : Service σ Empty) (code : Program) (c : Machine × σ) : Machine × σ :=
  code.foldl (turn service) c

@[simp] theorem play_nil (service : Service σ Empty) (c : Machine × σ) :
    play service [] c = c := rfl

@[simp] theorem play_cons (service : Service σ Empty) (i : Instruction) (code : Program)
    (c : Machine × σ) : play service (i :: code) c = play service code (turn service c i) := rfl

theorem play_append (service : Service σ Empty) (code more : Program) (c : Machine × σ) :
    play service (code ++ more) c = play service more (play service code c) := by
  simp [play]

theorem turn_modes (service : Service σ Empty) (c : Machine × σ) (i : Instruction) :
    (turn service c i).1.modes = c.1.modes :=
  step_modes service i c.1 c.2

theorem play_modes (service : Service σ Empty) (code : Program) (c : Machine × σ) :
    (play service code c).1.modes = c.1.modes := by
  induction code generalizing c with
  | nil => rfl
  | cons i code ih => rw [play_cons, ih, turn_modes]

/-- There is nothing to pass on. -/
theorem fault_eq_none (fault : Option Empty) : fault = none := by
  cases fault with
  | none => rfl
  | some e => cases e

/-- One turn of a run, and the rest of it unless the run is aborted. -/
theorem runFrom_cons (service : Service σ Empty) (i : Instruction) (rest : Program) (m : Machine)
    (s : σ) :
    runFrom (step service) (i :: rest) m s =
      let c := turn service (m, s) i
      let done := (step service i m s).machine
      if c.1.blocking && c.1.err != 0 then ⟨.aborted, c.1, c.2, [done]⟩
      else
        let r := runFrom (step service) rest c.1 c.2
        { r with trace := done :: r.trace } := by
  rw [runFrom]
  simp only [fault_eq_none]
  rfl

/-! ### Runs -/

/-- What a run notes behind instruction number `k` is the state behind the first
`k + 1` instructions. -/
theorem runFrom_trace (service : Service σ Empty) {program : Program} {m t : Machine} {s : σ}
    {k : Nat} (h : (runFrom (step service) program m s).trace[k]? = some t) :
    { t with cursor := t.cursor + 1 } = (play service (program.take (k + 1)) (m, s)).1 := by
  induction program generalizing m s k with
  | nil => simp [runFrom] at h
  | cons i rest ih =>
    rw [runFrom_cons] at h
    simp only at h
    rw [List.take_succ_cons, play_cons]
    split at h
    · cases k with
      | zero =>
        cases h
        rw [List.take_zero]
        rfl
      | succ k => simp at h
    · cases k with
      | zero =>
        cases h
        rw [List.take_zero]
        rfl
      | succ k => exact ih h

/-- Only instructions of the program are executed. -/
theorem run_trace_length (service : Service σ Empty) (program : Program) (m : Machine) (s : σ) :
    (run service program m s).trace.length ≤ program.length := by
  have tail : ∀ m s, (runFrom (step service) program m s).trace.length ≤ program.length := by
    induction program with
    | nil => intro m s; exact Nat.le_refl 0
    | cons i rest ih =>
      intro m s
      rw [runFrom_cons]
      simp only [List.length_cons]
      split
      · simp
      · exact Nat.succ_le_succ (ih ..)
  exact tail { m with cursor := 0 } s

/-- Where a run got to, instruction number `k` is executed behind the first `k`. -/
theorem before_eq (service : Service σ Empty) {program : Program} {m : Machine} {s : σ} {k : Nat}
    (reached : k ≤ (run service program m s).trace.length) :
    (run service program m s).before m k =
      (play service (program.take k) ({ m with cursor := 0 }, s)).1 := by
  cases k with
  | zero => rfl
  | succ k =>
    have noted := List.getElem?_eq_getElem reached
    rw [Run.before, noted]
    exact runFrom_trace service noted

/-- Without blocking a program is played to its end. -/
theorem runFrom_of_not_blocking (service : Service σ Empty) {program : Program} {m : Machine}
    (s : σ) (free : m.blocking = false) :
    let r := runFrom (step service) program m s
    r.ending = .finished ∧ (r.machine, r.service) = play service program (m, s) ∧
      r.trace.length = program.length := by
  induction program generalizing m s with
  | nil => exact ⟨rfl, rfl, rfl⟩
  | cons i rest ih =>
    have free' : (turn service (m, s) i).1.blocking = false := by
      have same := turn_modes service (m, s) i
      simp only [modes, Prod.mk.injEq] at same
      rw [same.2.2, free]
    obtain ⟨ending, final, length⟩ := ih (turn service (m, s) i).2 free'
    rw [runFrom_cons]
    simp only [free', Bool.false_and, Bool.false_eq_true, if_false]
    refine ⟨ending, ?_, by rw [List.length_cons, length, List.length_cons]⟩
    rw [play_cons]
    exact final

theorem run_of_not_blocking (service : Service σ Empty) (program : Program) {m : Machine} (s : σ)
    (free : m.blocking = false) :
    let r := run service program m s
    r.ending = .finished ∧ (r.machine, r.service) = play service program ({ m with cursor := 0 }, s) ∧
      r.trace.length = program.length :=
  runFrom_of_not_blocking service s free

end Machine

end RouteScript
