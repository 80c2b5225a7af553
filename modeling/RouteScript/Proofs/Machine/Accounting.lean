import RouteScript.Proofs.Machine.Cut

/-!
Every request is accounted for.

A request that lacks operands is skipped: it counts as a failed route, and nothing else
happens (`Skips`). With its operands there it is sent, once, and takes them off the stack;
whether the route passed is a matter of the reply alone (`Sends`, `Operands.Accepts`).

So the routes that passed or failed in a run are the requests of its program, and a machine
that is not silent complains about each request that was sent in vain
(`run_accounts_for_routes`). Both counts are summed up from one turn (`turn_routes`,
`turn_complaints`).
-/

namespace RouteScript

/-- Whether an instruction is a request. -/
def Instruction.isRequest : Instruction → Bool
  | .request _ => true
  | _ => false

/-! ### Operands -/

namespace Operands

/-- The operands on the stack, top first, and what is below. -/
def laid (o : Operands) : List String :=
  o.expected.toList ++ o.status :: (o.body.toList ++ o.url :: o.below)

/-- There is a reply, its status reads as expected, and so does its text if one is
expected. -/
def Accepts (o : Operands) (reply : Option Reply) : Prop :=
  ∃ r, reply = some r ∧ toString r.status = o.status ∧ ∀ text ∈ o.expected, r.text = text

end Operands

/-- An expected text and a body are operands of the requests that ask for them. -/
theorem RequestForm.operands?_laid {r : RequestForm} {stack : List String} {o : Operands}
    (taken : r.operands? stack = some o) :
    stack = o.laid ∧ o.expected.isSome = decide (r.use = .compare) ∧ o.body.isSome = r.hasBody ∧
      stack.length = o.below.length + r.operands := by
  obtain ⟨use, method, hasBody⟩ := r
  unfold operands? at taken
  cases use <;> cases hasBody <;> simp only [reduceCtorEq, decide_true, decide_false] at taken <;>
    split at taken <;> cases taken <;> simp_all [Operands.laid, operands]

theorem RequestForm.operands?_eq_none {r : RequestForm} {stack : List String} :
    r.operands? stack = none ↔ stack.length < r.operands := by
  constructor
  · intro none
    apply Nat.lt_of_not_le
    intro enough
    obtain ⟨o, taken, -⟩ := operands?_isSome enough
    rw [none] at taken
    cases taken
  · intro short
    cases taken : r.operands? stack with
    | none => rfl
    | some o =>
      obtain ⟨-, -, -, size⟩ := operands?_laid taken
      omega

namespace Machine

variable {σ : Type}

theorem failure?_eq_none_iff (o : Operands) (reply : Option Reply) :
    failure? o reply = none ↔ o.Accepts reply := by
  unfold failure? Operands.Accepts
  cases reply with
  | none => simp
  | some r =>
    simp only [Option.some.injEq, exists_eq_left', ne_eq, ite_not]
    generalize toString r.status = status
    by_cases same : status = o.status
    · cases expected : o.expected <;> simp [same]
    · simp [same]

/-! ### One request -/

/-- From `c` to `c'` a request was skipped. -/
structure Skips (r : RequestForm) (c c' : Machine × σ) : Prop where
  short : c.1.stack.length < r.operands
  stack : c'.1.stack = c.1.stack
  effects : c'.1.effects = c.1.effects
  ok : c'.1.ok = c.1.ok
  err : c'.1.err = c.1.err + 1
  server : c'.2 = c.2

/-- From `c` to `c'` a request with operands `o` was sent and had this reply. -/
structure Sends (server : Server σ) (r : RequestForm) (o : Operands) (reply : Option Reply)
    (c c' : Machine × σ × List Call) : Prop where
  laid : c.1.stack = o.laid
  expected : o.expected.isSome = decide (r.use = .compare)
  body : o.body.isSome = r.hasBody
  asked : server r.method o.url o.body c.2.1 = (reply, c'.2.1)
  calls : c'.2.2 = c.2.2 ++ [⟨r.method, o.url, o.body⟩]
  size : c.1.stack.length = o.below.length + r.operands
  stack : c'.1.stack =
    (if r.use = .capture then [(reply.map (·.text)).getD ""] else []) ++ o.below
  passed : o.Accepts reply →
    c'.1.ok = c.1.ok + 1 ∧ c'.1.err = c.1.err ∧ c'.1.effects = c.1.effects
  failed : ¬o.Accepts reply → c'.1.ok = c.1.ok ∧ c'.1.err = c.1.err + 1 ∧
    ∃ reason : String, c'.1.effects = c.1.effects ++ if c.1.silent then []
      else [⟨"stderr", s!"route error: {r.method.text} {o.url} : {reason}"⟩]

/-- A request is skipped if it lacks operands, and sent otherwise. -/
theorem turn_request (server : Server σ) (r : RequestForm) (c : Machine × σ × List Call) :
    let c' := turn server.noting.service c (.request r)
    Skips r c c' ∨ ∃ o reply, Sends server r o reply c c' := by
  obtain ⟨m, s⟩ := c
  intro c'
  have turned : c' = _ := turn_eq server.noting.service (.request r) m s
  rcases change_request server.noting.service s r m with
    ⟨none, change⟩ | ⟨o, reply, s', taken, answer, change⟩
  · rw [change] at turned
    rw [turned]
    exact .inl ⟨RequestForm.operands?_eq_none.mp none, rfl, rfl, rfl, rfl, rfl⟩
  · rw [change] at turned
    rw [turned]
    obtain ⟨laid, expected, body, size⟩ := RequestForm.operands?_laid taken
    have asked : server r.method o.url o.body s.1 = (reply, s'.1) ∧
        s'.2 = s.2 ++ [⟨r.method, o.url, o.body⟩] := by
      obtain ⟨state, calls⟩ := s
      simp only [Server.service, Server.noting, Prod.mk.injEq, Except.ok.injEq] at answer
      obtain ⟨rfl, rfl⟩ := answer
      exact ⟨rfl, rfl⟩
    refine .inr ⟨o, reply, laid, expected, body, asked.1, asked.2, size, ?_, ?_, ?_⟩
    · rw [operands?_below taken]
      rfl
    · intro accepted
      have calm := (failure?_eq_none_iff o reply).mpr accepted
      simp [changed, Operands.change, calm, effects]
    · intro refused
      obtain ⟨reason, wrong⟩ : ∃ reason, failure? o reply = some reason := by
        apply Option.ne_none_iff_exists'.mp
        intro calm
        exact refused ((failure?_eq_none_iff o reply).mp calm)
      refine ⟨by simp [changed, Operands.change, wrong], by simp [changed, Operands.change, wrong],
        reason, ?_⟩
      cases silent : m.silent <;> simp [changed, Operands.change, wrong, effects, keeps, silent]

/-! ### Counts -/

/-- A turn counts one route if it is that of a request, and none otherwise. -/
theorem turn_routes (service : Service σ Empty) (i : Instruction) (c : Machine × σ) :
    (turn service c i).1.ok + (turn service c i).1.err =
      c.1.ok + c.1.err + if i.isRequest then 1 else 0 := by
  obtain ⟨m, s⟩ := c
  have counts : (change service i m s).1.passed + (change service i m s).1.failed =
      if i.isRequest then 1 else 0 := by
    cases i with
    | pushLiteral text => rfl
    | bindVariable name => rfl
    | readVariable name => rfl
    | concatenate =>
      simp only [change]
      split <;> rfl
    | print =>
      simp only [change]
      split <;> rfl
    | request r =>
      rcases change_request service s r m with ⟨-, eq⟩ | ⟨o, reply, s', -, -, eq⟩
      · rw [eq]
        rfl
      · rw [eq]
        cases wrong : (failure? o reply).isSome <;>
          simp [Operands.change, wrong, Instruction.isRequest]
  rw [turn_eq]
  simp only [changed]
  omega

theorem play_routes (service : Service σ Empty) (code : Program) (c : Machine × σ) :
    (play service code c).1.ok + (play service code c).1.err =
      c.1.ok + c.1.err + code.countP Instruction.isRequest := by
  induction code generalizing c with
  | nil => rfl
  | cons i code ih =>
    rw [play_cons, ih, turn_routes, List.countP_cons]
    omega

/-- Whether an instruction is a request that has its operands and fails. -/
def isRefused (service : Service σ Empty) (c : Machine × σ) : Instruction → Bool
  | .request r =>
    r.operands ≤ c.1.stack.length && (turn service c (.request r)).1.err != c.1.err
  | _ => false

/-- How many complaints about routes were recorded. -/
def complaints (m : Machine) : Nat := m.effects.countP (·.topic = "stderr")

/-- Nothing but a request complains. -/
theorem turn_complaints_of_not_request (service : Service σ Empty) {i : Instruction}
    (other : i.isRequest = false) (c : Machine × σ) :
    (turn service c i).1.complaints = c.1.complaints := by
  obtain ⟨m, s⟩ := c
  have calm : ∀ e ∈ (change service i m s).1.tells, e.topic ≠ "stderr" := by
    intro e told
    cases i with
    | pushLiteral text => cases told
    | bindVariable name => cases told
    | readVariable name => cases told
    | concatenate =>
      simp only [change] at told
      split at told <;> cases told
    | print =>
      simp only [change] at told
      have other : "stdout" ≠ "stderr" := by decide
      split at told
      · cases told
        exact other
      · cases told
    | request r => cases other
  rw [turn_eq]
  cases told : (change service i m s).1.tells with
  | none => simp [complaints, effects, changed, told]
  | some e =>
    cases kept : m.keeps e <;> simp [complaints, effects, changed, told, kept, calm e told]

/-- A turn is complained about if it is that of a request sent in vain, unless the machine is
silent. -/
theorem turn_complaints (server : Server σ) (i : Instruction) (c : Machine × σ × List Call) :
    (turn server.noting.service c i).1.complaints =
      c.1.complaints + if !c.1.silent && isRefused server.noting.service c i then 1 else 0 := by
  cases i with
  | request r =>
    rcases turn_request server r c with skips | ⟨o, reply, sends⟩
    · have kept : isRefused server.noting.service c (.request r) = false := by
        simp [isRefused, Nat.not_le_of_gt skips.short]
      simp [complaints, skips.effects, kept]
    · have enough : r.operands ≤ c.1.stack.length := by
        rw [sends.size]
        exact Nat.le_add_left _ _
      by_cases accepted : o.Accepts reply
      · obtain ⟨-, err, effects⟩ := sends.passed accepted
        have kept : isRefused server.noting.service c (.request r) = false := by
          simp [isRefused, err]
        simp [complaints, effects, kept]
      · obtain ⟨-, err, reason, effects⟩ := sends.failed accepted
        have refused : isRefused server.noting.service c (.request r) = true := by
          simp [isRefused, err, enough]
        cases silent : c.1.silent <;> simp [complaints, effects, refused, silent]
  | _ =>
    rw [turn_complaints_of_not_request _ rfl]
    simp [isRefused]

/-- How many of the first `n` instructions of a program are requests sent in vain. -/
def refusals (service : Service σ Empty) (program : Program) (c : Machine × σ) (n : Nat) : Nat :=
  (List.range n).countP fun k =>
    program[k]?.any (isRefused service (play service (program.take k) c))

theorem play_complaints (server : Server σ) (program : Program) (c : Machine × σ × List Call)
    {n : Nat} (le : n ≤ program.length) :
    (play server.noting.service (program.take n) c).1.complaints =
      c.1.complaints + if c.1.silent then 0 else refusals server.noting.service program c n := by
  induction n with
  | zero => simp [refusals]
  | succ n ih =>
    have same := play_modes server.noting.service (program.take n) c
    simp only [modes, Prod.mk.injEq] at same
    have here : program[n]? = some program[n] := List.getElem?_eq_getElem le
    rw [play_take_succ _ le, turn_complaints, ih (Nat.le_of_succ_le le), same.1]
    cases c.1.silent with
    | true => simp
    | false =>
      simp [refusals, List.range_succ, List.countP_append, List.countP_singleton, here,
        Nat.add_assoc]

/-! ### Runs -/

/-- A machine that does not block accounts for every route. It executes the instructions of
its program once and in order: here `behind k` is the state behind the first `k` of them.
Each request counts as one route. One that lacks operands is skipped, any other is sent, and
the machine complains about those sent in vain, unless it is silent. -/
theorem run_accounts_for_routes (server : Server σ) (program : Program) {m : Machine}
    (free : m.blocking = false) (s : σ) (calls : List Call) :
    let service : Service (σ × List Call) Empty := server.noting.service
    let start : Machine × σ × List Call := ({ m with cursor := 0 }, s, calls)
    let r := run service program m (s, calls)
    let behind (k : Nat) := play service (program.take k) start
    (r.ending = .finished ∧ (r.machine, r.service) = behind program.length ∧
      r.trace.length = program.length ∧ (∀ k ≤ program.length, r.before m k = (behind k).1) ∧
      ∀ k (inside : k < program.length), behind (k + 1) = turn service (behind k) program[k]) ∧
    r.machine.ok + r.machine.err = m.ok + m.err + program.countP Instruction.isRequest ∧
    (∀ k form, program[k]? = some (.request form) →
      Skips form (behind k) (behind (k + 1)) ∨
        ∃ o reply, Sends server form o reply (behind k) (behind (k + 1))) ∧
    r.machine.complaints =
      m.complaints + if m.silent then 0 else refusals service program start program.length := by
  intro service start r behind
  obtain ⟨ending, final, length⟩ := run_of_not_blocking service program (s, calls) free
  have whole : (r.machine, r.service) = behind program.length := by
    simp only [behind, List.take_length]
    exact final
  have last : r.machine = (behind program.length).1 := congrArg Prod.fst whole
  have next (k : Nat) (inside : k < program.length) :
      behind (k + 1) = turn service (behind k) program[k] := play_take_succ service inside start
  refine ⟨⟨ending, whole, length, ?_, next⟩, ?_, ?_, ?_⟩
  · intro k le
    exact before_eq service (Nat.le_trans le (Nat.le_of_eq length.symm))
  · rw [last]
    simp only [behind, List.take_length]
    exact play_routes service program start
  · intro k form here
    obtain ⟨inside, here⟩ := List.getElem?_eq_some_iff.mp here
    rw [next k inside, here]
    exact turn_request server form (behind k)
  · rw [last]
    exact play_complaints server program start (Nat.le_refl _)

/-- The first request finds one value too few; the text captured by the second is the URL of
the third, whose status is not the one expected. -/
theorem run_accounts_for_routes_captured :
    let server : Server Unit := fun _ _ _ s => (some ⟨200, "/b"⟩, s)
    let m : Machine := { stack := ["left"], ok := 1, recorded := [⟨"stderr", "old"⟩] }
    let program : Program :=
      [.request ⟨.discard, .get, false⟩, .pushLiteral "/a", .pushLiteral "200",
        .request ⟨.capture, .get, false⟩, .pushLiteral "404", .request ⟨.discard, .post, false⟩]
    let r := run (ε := Empty) server.noting.service program m ((), [])
    m.blocking = false ∧ r.ending = .finished ∧ r.machine.ok + r.machine.err = 1 + 0 + 3 ∧
      r.machine.complaints = 1 + 1 ∧ r.service.2 = [⟨.get, "/a", none⟩, ⟨.post, "/b", none⟩] := by
  intro server m program r
  obtain ⟨⟨ending, final, -⟩, counts, -, complaints⟩ :=
    run_accounts_for_routes server program (m := m) rfl () []
  have requests : program.countP Instruction.isRequest = 3 := rfl
  have vain : refusals server.noting.service program ({ m with cursor := 0 }, (), []) program.length =
      1 := by decide +kernel
  refine ⟨rfl, ending, counts, ?_, ?_⟩
  · rw [complaints, vain]
    rfl
  · have sent := congrArg (·.2.2) final
    rw [sent]
    decide +kernel

end Machine

end RouteScript
