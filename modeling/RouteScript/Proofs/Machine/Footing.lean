import RouteScript.Proofs.Machine.Turns

/-!
What an instruction needs, and what is known to be there.

Every instruction looks at a fixed number of values on top of the stack
(`Instruction.needs`) and leaves a fixed number in their place. With its operands on
top, it acts as if there were nothing below them (`step_above`).

A `Footing` is what is known before an instruction is executed: that there are at
least so many values, and that certain names are bound. `Supports` follows the
footing through a program and asks that each instruction has what it needs. It is
a matter of the program alone, and says the same for every mode of the machine:
where a quiet machine keeps a value that it should show, there is one more than
known. A run of a supported program stands on its footings (`Stands.append`).
-/

namespace RouteScript

/-! ### Needs -/

/-- How many values on top of the stack an instruction takes or looks at. -/
def Instruction.needs : Instruction → Nat
  | .pushLiteral _ | .readVariable _ => 0
  | .bindVariable _ | .print => 1
  | .concatenate => 2
  | .request r => r.operands

/-- How many values an instruction leaves in their place. -/
def Instruction.leaves : Instruction → Nat
  | .pushLiteral _ | .readVariable _ | .bindVariable _ | .concatenate => 1
  | .print => 0
  | .request r => if r.use = .capture then 1 else 0

/-- The name whose value an instruction takes. -/
def Instruction.readName? : Instruction → Option String
  | .readVariable name => some name
  | _ => none

/-- The name that an instruction binds. -/
def Instruction.boundName? : Instruction → Option String
  | .bindVariable name => some name
  | _ => none

/-- A stack that is long enough holds the operands of a request. -/
theorem RequestForm.operands?_isSome {r : RequestForm} {stack : List String}
    (enough : r.operands ≤ stack.length) :
    ∃ o, r.operands? stack = some o ∧ o.below.length + r.operands = stack.length ∧
      ∀ below, r.operands? (stack ++ below) = some { o with below := o.below ++ below } := by
  obtain ⟨use, method, hasBody⟩ := r
  unfold operands at enough ⊢
  unfold operands?
  cases hasBody <;> cases use <;>
    (match stack, enough with
    | a :: b :: c :: d :: below, _ => simp
    | [a, b, c], enough => simp at enough ⊢
    | [a, b], enough => simp at enough ⊢
    | [a], enough => simp at enough
    | [], enough => simp at enough)

/-! ### Values below -/

/-- The machine with more values below its own. -/
def Machine.above (m : Machine) (below : List String) : Machine :=
  { m with stack := m.stack ++ below }

/-- What an instruction comes to, with more values below those of the machine. -/
def Progress.above {σ ε : Type} (p : Progress σ ε) (below : List String) : Progress σ ε :=
  { p with machine := p.machine.above below }

namespace Machine

variable {σ ε : Type}

theorem routeError_above (m : Machine) (method : Method) (url reason : String)
    (below : List String) :
    (m.above below).routeError method url reason = (m.routeError method url reason).above below := by
  unfold routeError
  cases silent : m.silent <;> simp [above, emit, silent]

theorem settle_above (m : Machine) (r : RequestForm) (o : Operands) (reply : Option Reply)
    (below : List String) :
    (m.above below).settle r { o with below := o.below ++ below } reply =
      (m.settle r o reply).above below := by
  have same : failure? { o with below := o.below ++ below } reply = failure? o reply := rfl
  unfold settle
  rw [same]
  cases failure? o reply with
  | none => by_cases captured : r.use = .capture <;> simp [above, captured]
  | some reason =>
    simp only [routeError_above]
    by_cases captured : r.use = .capture <;> simp [above, captured]

theorem request_above (service : Service σ ε) {r : RequestForm} {m : Machine}
    (enough : r.operands ≤ m.stack.length) (below : List String) (s : σ) :
    (m.above below).request service r s = (m.request service r s).above below := by
  obtain ⟨o, taken, -, more⟩ := RequestForm.operands?_isSome enough
  have taken' : r.operands? (m.above below).stack = some { o with below := o.below ++ below } :=
    more below
  unfold request
  simp only [taken, taken']
  rcases service.send r.method o.url o.body s with ⟨e | reply, s'⟩
  · rfl
  · have waiting := settle_above { m with stack := o.url :: o.below } r o reply below
    cases passed : service.unwritable? reply with
    | some e =>
      simp only [passed]
      rfl
    | none =>
      simp only [passed, Progress.above, ← waiting]
      rfl

/-- With its operands on top, an instruction acts as if there were nothing below. -/
theorem step_above (service : Service σ ε) {i : Instruction} {m : Machine}
    (enough : i.needs ≤ m.stack.length) (below : List String) (s : σ) :
    step service i (m.above below) s = (step service i m s).above below := by
  cases i with
  | pushLiteral text => rfl
  | bindVariable name =>
    cases stack : m.stack with
    | nil => simp [stack, Instruction.needs] at enough
    | cons top rest => simp [step, above, Progress.above, stack]
  | readVariable name =>
    cases value : m.bindings.lookup name <;> simp [step, above, Progress.above, value]
  | concatenate =>
    rcases stack : m.stack with _ | ⟨top, _ | ⟨second, rest⟩⟩
    · simp [stack, Instruction.needs] at enough
    · simp [stack, Instruction.needs] at enough
    · simp [step, above, Progress.above, stack]
  | print =>
    cases stack : m.stack with
    | nil => simp [stack, Instruction.needs] at enough
    | cons top rest =>
      cases quiet : m.quiet <;> simp [step, above, Progress.above, emit, stack, quiet]
  | request r => exact request_above service enough below s

/-! ### What an instruction leaves -/

theorem settle_stack (m : Machine) (r : RequestForm) (o : Operands) (reply : Option Reply) :
    (m.settle r o reply).stack.length =
      o.below.length + (Instruction.request r).leaves := by
  unfold settle Instruction.leaves
  by_cases captured : r.use = .capture <;> simp [captured]

/-- An instruction with operands leaves at least as many values as it is said to;
a quiet machine keeps what it should print. -/
theorem step_length (service : Service σ Empty) {i : Instruction} {m : Machine}
    (enough : i.needs ≤ m.stack.length)
    (bound : ∀ n ∈ i.readName?, ∃ v, m.bindings.lookup n = some v) (s : σ) :
    m.stack.length + i.leaves ≤ (step service i m s).machine.stack.length + i.needs := by
  cases i with
  | pushLiteral text => simp [step, Instruction.leaves, Instruction.needs]
  | bindVariable name =>
    cases stack : m.stack with
    | nil => simp [stack, Instruction.needs] at enough
    | cons top rest => simp [step, stack, Instruction.leaves, Instruction.needs]
  | readVariable name =>
    obtain ⟨v, value⟩ := bound name rfl
    simp [step, value, Instruction.leaves, Instruction.needs]
  | concatenate =>
    rcases stack : m.stack with _ | ⟨top, _ | ⟨second, rest⟩⟩
    · simp [stack, Instruction.needs] at enough
    · simp [stack, Instruction.needs] at enough
    · simp [step, stack, Instruction.leaves, Instruction.needs]
  | print =>
    cases stack : m.stack with
    | nil => simp [stack, Instruction.needs] at enough
    | cons top rest =>
      cases quiet : m.quiet <;> simp [step, emit, stack, quiet, Instruction.leaves, Instruction.needs]
  | request r =>
    obtain ⟨o, taken, length, -⟩ := RequestForm.operands?_isSome enough
    simp only [step, request, taken]
    rcases service.send r.method o.url o.body s with ⟨e | reply, s'⟩
    · cases e
    · simp only [Service.unwritable?_eq_none, settle_stack, Instruction.needs]
      omega

theorem routeError_bindings (m : Machine) (method : Method) (url reason : String) :
    (m.routeError method url reason).bindings = m.bindings := by
  unfold routeError
  split <;> rfl

theorem settle_bindings (m : Machine) (r : RequestForm) (o : Operands) (reply : Option Reply) :
    (m.settle r o reply).bindings = m.bindings := by
  unfold settle
  cases failure? o reply with
  | none => rfl
  | some reason => exact routeError_bindings m r.method o.url reason

/-- Only a binding changes the table. -/
theorem step_bindings (service : Service σ ε) (i : Instruction) (m : Machine) (s : σ) :
    (step service i m s).machine.bindings =
      match i.boundName?, m.stack with
      | some name, top :: _ => Assoc.set name top m.bindings
      | _, _ => m.bindings := by
  cases i with
  | pushLiteral text => rfl
  | bindVariable name =>
    cases stack : m.stack <;> simp [step, stack, Instruction.boundName?]
  | readVariable name =>
    simp only [step, Instruction.boundName?]
    split <;> rfl
  | concatenate =>
    simp only [step, Instruction.boundName?]
    split <;> rfl
  | print =>
    simp only [step, Instruction.boundName?]
    split <;> rfl
  | request r =>
    rcases step_request service r m s with ⟨-, eq⟩ | ⟨o, -, ⟨e, -, eq⟩ | ⟨reply, -, -, eq⟩⟩
    · rw [eq]
      rfl
    · rw [eq]
      rfl
    · rw [eq]
      exact settle_bindings ..

end Machine

/-! ### Footings -/

/-- What is known before an instruction: there are at least so many values, and
these names are bound. -/
structure Footing where
  depth : Nat := 0
  names : List String := []

namespace Footing

/-- What is known behind an instruction. -/
def after (f : Footing) (i : Instruction) : Footing :=
  ⟨f.depth - i.needs + i.leaves, i.boundName?.toList ++ f.names⟩

/-- From `f` on each instruction has what it needs, and `g` is known behind the last. -/
inductive Supports : Footing → Program → Footing → Prop where
  | nil (f : Footing) : Supports f [] f
  | cons {f g : Footing} {i : Instruction} {rest : Program} :
      i.needs ≤ f.depth → (∀ n ∈ i.readName?, n ∈ f.names) → Supports (f.after i) rest g →
      Supports f (i :: rest) g

variable {f g h : Footing} {i : Instruction} {code more : Program}

theorem Supports.one (room : i.needs ≤ f.depth) (known : ∀ n ∈ i.readName?, n ∈ f.names) :
    Supports f [i] (f.after i) :=
  .cons room known (.nil _)

/-- One more instruction that takes no name. -/
theorem Supports.nameless (room : i.needs ≤ f.depth) (none : i.readName? = .none) :
    Supports f [i] (f.after i) := by
  apply Supports.one room
  intro n hn
  rw [none] at hn
  cases hn

theorem Supports.append (first : Supports f code g) (second : Supports g more h) :
    Supports f (code ++ more) h := by
  induction first with
  | nil f => exact second
  | cons room known _ ih => exact .cons room known (ih second)

/-- Support can be followed up to any place of a program. -/
theorem Supports.split (both : Supports f (code ++ more) h) :
    ∃ g, Supports f code g ∧ Supports g more h := by
  induction code generalizing f with
  | nil => exact ⟨f, .nil f, both⟩
  | cons i rest ih =>
    cases both with
    | cons room known later =>
      obtain ⟨g, first, second⟩ := ih later
      exact ⟨g, .cons room known first, second⟩

end Footing

namespace Machine

variable {σ : Type} {service : Service σ Empty} {c : Machine × σ} {f g : Footing}
  {i : Instruction} {code more : Program}

/-- What a footing says of the state behind some code: there are values above those
of the start, and the value of each name was on top when the name was bound. -/
structure Stands (service : Service σ Empty) (c : Machine × σ) (code : Program) (f : Footing) :
    Prop where
  own : ∃ own, (play service code c).1.stack = own ++ c.1.stack ∧ f.depth ≤ own.length
  bound : ∀ n ∈ f.names, ∃ (j : Nat) (v : String), code[j]? = some (.bindVariable n) ∧
    (play service (code.take j) c).1.stack.head? = some v ∧
    (play service code c).1.bindings.lookup n = some v

theorem Stands.start (service : Service σ Empty) (c : Machine × σ) : Stands service c [] {} :=
  ⟨⟨[], rfl, Nat.le_refl 0⟩, nofun⟩

/-- What a name was bound to by the last instruction. -/
theorem Stands.binds (stands : Stands service c code f) (room : i.needs ≤ f.depth) {n : String}
    (binding : i.boundName? = some n) :
    ∃ v, i = .bindVariable n ∧ (play service code c).1.stack.head? = some v ∧
      (turn service (play service code c) i).1.bindings.lookup n = some v := by
  obtain ⟨own, stack, deep⟩ := stands.own
  cases i with
  | bindVariable name =>
    cases binding
    cases own with
    | nil =>
      have one : 1 ≤ 0 := Nat.le_trans room deep
      omega
    | cons top own =>
      refine ⟨top, rfl, by simp [stack], ?_⟩
      have table := step_bindings service (.bindVariable n) (play service code c).1
        (play service code c).2
      simp only [Instruction.boundName?, stack, List.cons_append] at table
      simp [turn, table, Assoc.lookup_set_self]
  | pushLiteral text => cases binding
  | readVariable name => cases binding
  | concatenate => cases binding
  | print => cases binding
  | request r => cases binding

theorem play_snoc (service : Service σ Empty) (c : Machine × σ) (code : Program)
    (i : Instruction) : play service (code ++ [i]) c = turn service (play service code c) i := by
  rw [play_append]
  rfl

/-- An instruction with operands leaves the values below them, and enough of its own. -/
theorem Stands.own_snoc (stands : Stands service c code f) (room : i.needs ≤ f.depth)
    (known : ∀ n ∈ i.readName?, n ∈ f.names) :
    ∃ own, (play service (code ++ [i]) c).1.stack = own ++ c.1.stack ∧
      (f.after i).depth ≤ own.length := by
  obtain ⟨own, stack, deep⟩ := stands.own
  have enough : i.needs ≤ own.length := Nat.le_trans room deep
  let alone : Machine := { (play service code c).1 with stack := own }
  have whole : (play service code c).1 = alone.above c.1.stack := by
    simp only [alone, above, ← stack]
  have values : ∀ n ∈ i.readName?, ∃ v, alone.bindings.lookup n = some v := by
    intro n hn
    obtain ⟨j, v, -, -, value⟩ := stands.bound n (known n hn)
    exact ⟨v, value⟩
  have grown := step_length service (m := alone) enough values (play service code c).2
  refine ⟨(step service i alone (play service code c).2).machine.stack, ?_, ?_⟩
  · rw [play_snoc, turn]
    simp only
    rw [whole, step_above service (m := alone) enough]
    rfl
  · have same : alone.stack.length = own.length := rfl
    simp only [Footing.after]
    omega

/-- An instruction keeps the values of the names that it does not bind. -/
theorem Stands.bound_snoc (stands : Stands service c code f) (room : i.needs ≤ f.depth) {n : String}
    (named : n ∈ (f.after i).names) :
    ∃ (j : Nat) (v : String), (code ++ [i])[j]? = some (.bindVariable n) ∧
      (play service ((code ++ [i]).take j) c).1.stack.head? = some v ∧
      (play service (code ++ [i]) c).1.bindings.lookup n = some v := by
  rw [play_snoc]
  by_cases binding : i.boundName? = some n
  · obtain ⟨v, rfl, top, value⟩ := stands.binds room binding
    exact ⟨code.length, v, by simp, by simpa using top, value⟩
  · have old : n ∈ f.names := by
      rcases List.mem_append.mp named with new | old
      · exact absurd (by simpa using new) binding
      · exact old
    obtain ⟨j, v, at', top, value⟩ := stands.bound n old
    have inside : j < code.length := (List.getElem?_eq_some_iff.mp at').1
    refine ⟨j, v, ?_, ?_, ?_⟩
    · rw [List.getElem?_append_left inside, at']
    · rw [List.take_append_of_le_length (Nat.le_of_lt inside), top]
    · have table := step_bindings service i (play service code c).1 (play service code c).2
      simp only [turn, table]
      split
      · next name top rest names _ =>
        have ne : n ≠ name := by
          rintro rfl
          exact binding names
        rw [Assoc.lookup_set_of_ne ne, value]
      · exact value

/-- One more instruction that has what it needs. -/
theorem Stands.snoc (stands : Stands service c code f) (room : i.needs ≤ f.depth)
    (known : ∀ n ∈ i.readName?, n ∈ f.names) : Stands service c (code ++ [i]) (f.after i) := by
  constructor
  · exact stands.own_snoc room known
  · intro n named
    exact stands.bound_snoc room named

/-- A supported program stands on its footings to the end. -/
theorem Stands.append (stands : Stands service c code f) (supports : f.Supports more g) :
    Stands service c (code ++ more) g := by
  induction supports generalizing code with
  | nil f => simpa using stands
  | cons room known _ ih =>
    have next := ih (stands.snoc room known)
    rwa [List.append_assoc] at next

/-- Where a run of a supported program has got to, the next instruction has what it
needs. -/
theorem Stands.of_supports (service : Service σ Empty) (c : Machine × σ) {program : Program}
    (supports : Footing.Supports {} program g) {k : Nat} (inside : k < program.length) :
    ∃ f, Stands service c (program.take k) f ∧ program[k].needs ≤ f.depth ∧
      ∀ n ∈ program[k].readName?, n ∈ f.names := by
  have cut : program = program.take k ++ program[k] :: program.drop (k + 1) := by
    rw [← List.drop_eq_getElem_cons inside, List.take_append_drop]
  rw [cut] at supports
  obtain ⟨f, done, here⟩ := supports.split
  have stands := (Stands.start service c).append done
  rw [List.nil_append] at stands
  cases here with
  | cons room known _ => exact ⟨f, stands, room, known⟩

end Machine

end RouteScript
