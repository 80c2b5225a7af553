import RouteScript.Proofs.Machine.Footing

/-!
What one instruction changes.

A `Change` lists all that an instruction can do to a machine: values taken off the
stack and values put there, a name bound, a route counted, an effect recorded. A turn
is its change and nothing else (`turn_eq`), so that a property of runs needs to look
at instructions only where it asks something of their changes.

* `change_eq_of_top`: the change is a matter of the operands, of the value of the name
  that is read and, for `print` alone, of a mode of the machine.
* `change_length`: with its operands there, an instruction leaves at least as many values
  as it is said to; a quiet machine leaves one more.
* `change_failed_le`: no instruction fails more than one route.
-/

namespace RouteScript

/-- What an instruction does to a machine. -/
structure Change where
  /-- How many values are taken off the stack. -/
  takes : Nat := 0
  /-- The values that are put on the stack then. -/
  puts : List String := []
  binds : Option (String × String) := none
  /-- Routes that passed. -/
  passed : Nat := 0
  /-- Routes that failed. -/
  failed : Nat := 0
  tells : Option Effect := none

/-- What a request comes to, by its operands and the reply to it. -/
def Operands.change (o : Operands) (r : RequestForm) (reply : Option Reply) : Change where
  takes := r.operands
  puts := if r.use = .capture then [(reply.map (·.text)).getD ""] else []
  passed := if (Machine.failure? o reply).isSome then 0 else 1
  failed := if (Machine.failure? o reply).isSome then 1 else 0
  tells := (Machine.failure? o reply).map fun reason =>
    ⟨"stderr", s!"route error: {r.method.text} {o.url} : {reason}"⟩

namespace Machine

variable {σ : Type}

/-- Whether an effect is kept: a silent machine keeps nothing for standard error. -/
def keeps (m : Machine) (e : Effect) : Bool := !(m.silent && e.topic = "stderr")

/-- The machine behind a change, with the cursor on the next instruction. -/
def changed (m : Machine) (c : Change) : Machine :=
  { m with
    stack := c.puts ++ m.stack.drop c.takes
    bindings := c.binds.elim m.bindings fun (name, v) => Assoc.set name v m.bindings
    ok := m.ok + c.passed
    err := m.err + c.failed
    recorded := c.tells.toList.filter m.keeps ++ m.recorded
    cursor := m.cursor + 1 }

/-- What an instruction changes, and the state of the service behind it. -/
def change (service : Service σ Empty) (i : Instruction) (m : Machine) (s : σ) : Change × σ :=
  match i with
  | .pushLiteral text => ({ puts := [text] }, s)
  | .bindVariable name => ({ binds := m.stack.head?.map (name, ·) }, s)
  | .readVariable name => ({ puts := (m.bindings.lookup name).toList }, s)
  | .concatenate =>
    match m.stack with
    | top :: second :: _ => ({ takes := 2, puts := [second ++ top] }, s)
    | _ => ({}, s)
  | .print =>
    match m.quiet, m.stack with
    | false, top :: _ => ({ takes := 1, tells := some ⟨"stdout", top⟩ }, s)
    | _, _ => ({}, s)
  | .request r =>
    match r.operands? m.stack with
    | none => ({ failed := 1 }, s)
    | some o =>
      match service.send r.method o.url o.body s with
      | (.ok reply, s) => (o.change r reply, s)
      | (.error e, _) => e.elim

/-! ### A turn is its change -/

/-- Behind its operands a request leaves the stack as it was. -/
theorem operands?_below {r : RequestForm} {stack : List String} {o : Operands}
    (taken : r.operands? stack = some o) : o.below = stack.drop r.operands := by
  obtain ⟨use, method, hasBody⟩ := r
  unfold RequestForm.operands? at taken
  cases use <;> cases hasBody <;> simp only [reduceCtorEq, decide_true, decide_false] at taken <;>
    split at taken <;> cases taken <;> simp_all [RequestForm.operands]

theorem settle_eq (m : Machine) (stack : List String) {r : RequestForm} {o : Operands}
    (below : o.below = m.stack.drop r.operands) (reply : Option Reply) :
    let settled := ({ m with stack } : Machine).settle r o reply
    { settled with cursor := settled.cursor + 1 } = m.changed (o.change r reply) := by
  unfold settle Operands.change changed
  rw [← below]
  cases failure? o reply with
  | none => by_cases captured : r.use = .capture <;> simp [captured]
  | some reason =>
    unfold routeError
    cases silent : m.silent <;> by_cases captured : r.use = .capture <;>
      simp [captured, silent, emit, keeps]

theorem turn_eq (service : Service σ Empty) (i : Instruction) (m : Machine) (s : σ) :
    turn service (m, s) i = (m.changed (change service i m s).1, (change service i m s).2) := by
  cases i with
  | pushLiteral text => rfl
  | bindVariable name =>
    cases stack : m.stack <;> simp [turn, step, change, changed, stack]
  | readVariable name =>
    cases value : m.bindings.lookup name <;> simp [turn, step, change, changed, value]
  | concatenate =>
    rcases stack : m.stack with _ | ⟨top, _ | ⟨second, rest⟩⟩ <;>
      simp [turn, step, change, changed, stack]
  | print =>
    cases quiet : m.quiet <;> cases stack : m.stack <;>
      simp [turn, step, change, changed, stack, quiet, emit, keeps]
  | request r =>
    cases taken : r.operands? m.stack with
    | none => simp [turn, step, request, change, changed, taken]
    | some o =>
      rcases answer : service.send r.method o.url o.body s with ⟨e | reply, s'⟩
      · cases e
      · have settled := settle_eq m (o.url :: o.below) (operands?_below taken) reply
        simp only [turn, step, request, change, taken, answer, Service.unwritable?_eq_none]
        rw [← settled]

/-! ### What a change depends on -/

section Top

variable (service : Service σ Empty) {i : Instruction} {m m' : Machine} (s : σ)
  {own below below' : List String}

/-- A change is a matter of the operands on top, and of the value of the name that is
read. Only a print also asks for a mode. -/
theorem change_eq_of_top (stack : m.stack = own ++ below) (stack' : m'.stack = own ++ below')
    (enough : i.needs ≤ own.length)
    (values : ∀ n ∈ i.readName?, m.bindings.lookup n = m'.bindings.lookup n)
    (modes : i = .print → m.quiet = m'.quiet) :
    change service i m s = change service i m' s := by
  cases i with
  | pushLiteral text => rfl
  | bindVariable name =>
    cases own with
    | nil => simp [Instruction.needs] at enough
    | cons top own => simp [change, stack, stack']
  | readVariable name => simp only [change, values name rfl]
  | concatenate =>
    rcases own with _ | ⟨top, _ | ⟨second, own⟩⟩
    · simp [Instruction.needs] at enough
    · simp [Instruction.needs] at enough
    · simp [change, stack, stack']
  | print =>
    cases own with
    | nil => simp [Instruction.needs] at enough
    | cons top own =>
      simp only [change, stack, stack', List.cons_append, modes rfl]
      cases m'.quiet <;> rfl
  | request r =>
    obtain ⟨o, -, -, taken⟩ := RequestForm.operands?_isSome enough
    simp only [change, stack, stack', taken]
    rfl

/-- A request lacks operands and fails, or has them and is answered. -/
theorem change_request (r : RequestForm) (m : Machine) :
    (r.operands? m.stack = none ∧ change service (.request r) m s = ({ failed := 1 }, s)) ∨
      ∃ o reply s', r.operands? m.stack = some o ∧
        service.send r.method o.url o.body s = (.ok reply, s') ∧
        change service (.request r) m s = (o.change r reply, s') := by
  cases taken : r.operands? m.stack with
  | none => exact .inl ⟨rfl, by simp [change, taken]⟩
  | some o =>
    rcases answer : service.send r.method o.url o.body s with ⟨e | reply, s'⟩
    · cases e
    · exact .inr ⟨o, reply, s', rfl, answer, by simp [change, taken, answer]⟩

/-- No more is taken than is needed. -/
theorem change_takes_le (i : Instruction) (m : Machine) : (change service i m s).1.takes ≤ i.needs := by
  cases i with
  | pushLiteral text => exact Nat.zero_le _
  | bindVariable name => exact Nat.zero_le _
  | readVariable name => exact Nat.zero_le _
  | concatenate =>
    simp only [change]
    split
    · exact Nat.le_refl 2
    · exact Nat.zero_le _
  | print =>
    simp only [change]
    split
    · exact Nat.le_refl 1
    · exact Nat.zero_le _
  | request r =>
    rcases change_request service s r m with ⟨-, eq⟩ | ⟨o, reply, s', -, -, eq⟩
    · rw [eq]
      exact Nat.zero_le _
    · rw [eq]
      exact Nat.le_refl _

/-- Only requests fail routes, and no request fails more than one. -/
theorem change_failed_le (i : Instruction) (m : Machine) : (change service i m s).1.failed ≤ 1 := by
  cases i with
  | pushLiteral text => exact Nat.zero_le _
  | bindVariable name => exact Nat.zero_le _
  | readVariable name => exact Nat.zero_le _
  | concatenate =>
    simp only [change]
    split <;> exact Nat.zero_le _
  | print =>
    simp only [change]
    split <;> exact Nat.zero_le _
  | request r =>
    rcases change_request service s r m with ⟨-, eq⟩ | ⟨o, reply, s', -, -, eq⟩
    · apply Nat.le_of_eq
      rw [eq]
    · rw [eq]
      cases wrong : (failure? o reply).isSome <;> simp [Operands.change, wrong]

/-- With its operands there, an instruction leaves at least as many values as it is said
to. -/
theorem change_length (stack : m.stack = own ++ below) (enough : i.needs ≤ own.length)
    (bound : ∀ n ∈ i.readName?, ∃ v, m.bindings.lookup n = some v) :
    let c := (change service i m s).1
    own.length + i.leaves ≤ (c.puts ++ own.drop c.takes).length + i.needs := by
  intro c
  let alone : Machine := { m with stack := own }
  have same : change service i alone s = change service i m s :=
    change_eq_of_top service s (List.append_nil own).symm stack enough (fun _ _ => rfl) fun _ => rfl
  have grown := step_length service (m := alone) enough bound s
  have turned := congrArg (·.1.stack.length) (turn_eq service i alone s)
  simp only [same] at turned
  exact Nat.le_trans grown (Nat.le_of_eq (congrArg (· + i.needs) turned))

/-- A change that takes no more than is there leaves what is below. -/
theorem changed_stack {c : Change} (stack : m.stack = own ++ below) (few : c.takes ≤ own.length) :
    (m.changed c).stack = (c.puts ++ own.drop c.takes) ++ below := by
  simp only [changed, stack, List.drop_append_of_le_length few, List.append_assoc]

end Top

end Machine

end RouteScript
