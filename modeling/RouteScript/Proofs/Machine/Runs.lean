import RouteScript.Client.Service
import RouteScript.Proofs.Machine.Turns

/-!
Runs over any service.

A service may pass failures on here, so a run can end anywhere. Still, a run that comes to an
end has its cursor there (`run_cursor`), a machine that is both silent and quiet has nothing
to show (`run_recorded`), and what a service carries along without looking at it is carried
along by the whole run (`run_commutes`). For the requests of a client that is the log of all
that was done before (`Client.service_commutes`).

Code that makes no request cannot fail, and what it does is done wherever it stands in a program
(`runFrom_steps`).
-/

namespace RouteScript

/-- A change of state that the service does not notice, and that it leaves as it was. -/
def Service.Commutes {σ ε : Type} (service : Service σ ε) (f : σ → σ) : Prop :=
  ∀ method url body s,
    service.send method url body (f s) =
      ((service.send method url body s).1, f (service.send method url body s).2)

namespace Machine

variable {σ ε : Type} (service : Service σ ε) (program : Program) (m : Machine) (s : σ)

/-- The first instruction of a run is the last if a failure is passed on there or the run is
aborted behind it; otherwise the rest of the program is run. -/
theorem runFrom_step (i : Instruction) (rest : Program) :
    let p := step service i m s
    let moved : Machine := { p.machine with cursor := p.machine.cursor + 1 }
    let r := runFrom (step service) (i :: rest) m s
    (∃ e, r = ⟨.fault e, p.machine, p.service, []⟩) ∨
      r = ⟨.aborted, moved, p.service, [p.machine]⟩ ∨
      ∃ trace, r = { runFrom (step service) rest moved p.service with trace } := by
  intro p moved r
  simp only [r, runFrom]
  cases fault : (step service i m s).fault with
  | some e => exact .inl ⟨e, rfl⟩
  | none =>
    refine .inr ?_
    simp only
    split
    · exact .inl rfl
    · exact .inr ⟨_, rfl⟩

/-! ### The cursor -/

theorem routeError_cursor (method : Method) (url reason : String) :
    (m.routeError method url reason).cursor = m.cursor := by
  unfold routeError
  split <;> rfl

theorem settle_cursor (r : RequestForm) (o : Operands) (reply : Option Reply) :
    (m.settle r o reply).cursor = m.cursor := by
  unfold settle
  cases failure? o reply with
  | none => rfl
  | some reason => exact routeError_cursor m r.method o.url reason

/-- An instruction leaves the cursor where it is. -/
theorem step_cursor (i : Instruction) : (step service i m s).machine.cursor = m.cursor := by
  rcases request_or_step_eq service i m with ⟨r, rfl⟩ | ⟨stack, bindings, recorded, -, eq⟩
  · rcases step_request service r m s with ⟨-, eq⟩ | ⟨o, -, ⟨e, -, eq⟩ | ⟨reply, -, -, eq⟩⟩
    · rw [eq]
    · rw [eq]
    · rw [eq]
      exact settle_cursor _ r o reply
  · rw [eq]

/-- A run that comes to the end of its program has its cursor there. -/
theorem runFrom_cursor (finished : (runFrom (step service) program m s).ending = .finished) :
    (runFrom (step service) program m s).machine.cursor = m.cursor + program.length := by
  induction program generalizing m s with
  | nil => rfl
  | cons i rest ih =>
    rcases runFrom_step service m s i rest with ⟨e, eq⟩ | eq | ⟨trace, eq⟩
    · rw [eq] at finished
      cases finished
    · rw [eq] at finished
      cases finished
    · rw [eq] at finished ⊢
      refine (ih _ _ finished).trans ?_
      change (step service i m s).machine.cursor + 1 + rest.length = _
      rw [step_cursor, List.length_cons]
      omega

theorem run_cursor (finished : (run service program m s).ending = .finished) :
    (run service program m s).machine.cursor = program.length := by
  rw [run, runFrom_cursor service program _ s finished]
  exact Nat.zero_add _

/-! ### Pieces of code -/

section Pieces

/-- Executes instructions one after the other, up to a failure that is passed on. -/
def steps : Program → Machine → σ → Progress σ ε
  | [], m, s => { machine := m, service := s }
  | i :: rest, m, s =>
    let p := step service i m s
    if p.fault.isSome then p else steps rest p.machine p.service

variable {m s} {i : Instruction} {code more : Program}

theorem steps_cons {m' : Machine} {s' : σ} (first : step service i m s = ⟨m', s', none⟩) :
    steps service (i :: code) m s = steps service code m' s' := by
  rw [steps, first]
  rfl

theorem steps_append {m' : Machine} {s' : σ} (first : steps service code m s = ⟨m', s', none⟩) :
    steps service (code ++ more) m s = steps service more m' s' := by
  induction code generalizing m s with
  | nil =>
    cases first
    rfl
  | cons i rest ih =>
    rw [steps] at first
    rw [List.cons_append, steps]
    split at first
    · next fault =>
      rw [first] at fault
      cases fault
    · next none =>
      rw [if_neg none]
      exact ih first

/-- What an instruction that is no request does is done wherever the cursor stands. -/
theorem step_plain (m : Machine) (plain : ∀ r, i ≠ .request r) :
    ∃ stack bindings recorded, ∀ cursor s, step service i { m with cursor } s =
      ⟨{ m with stack, bindings, recorded, cursor }, s, none⟩ := by
  rcases request_or_step_eq service i m with ⟨r, rfl⟩ | ⟨stack, bindings, recorded, -, eq⟩
  · exact absurd rfl (plain r)
  · refine ⟨stack, bindings, recorded, fun cursor s => ?_⟩
    have moved : step service i { m with cursor } s =
        { step service i m s with machine := { (step service i m s).machine with cursor } } := by
      cases i with
      | pushLiteral text => rfl
      | bindVariable name => cases stack : m.stack <;> simp [step, stack]
      | readVariable name => cases value : m.bindings.lookup name <;> simp [step, value]
      | concatenate =>
        rcases stack : m.stack with _ | ⟨top, _ | ⟨second, below⟩⟩ <;> simp [step, stack]
      | print =>
        cases quiet : m.quiet <;> cases stack : m.stack <;> simp [step, quiet, stack, emit]
      | request r => exact absurd rfl (plain r)
    rw [moved, eq]

/-- A run executes a piece of code without requests step by step, wherever it stands, unless it is
to be aborted there. -/
theorem runFrom_steps (plain : ∀ i ∈ code, ∀ r, i ≠ .request r)
    (going : (m.blocking && m.err != 0) = false) (cursor : Nat) (rest : Program) :
    ∃ trace, runFrom (step service) (code ++ rest) { m with cursor } s =
      let p := steps service code m s
      let r := runFrom (step service) rest { p.machine with cursor := cursor + code.length } p.service
      { r with trace := trace ++ r.trace } := by
  induction code generalizing m s cursor with
  | nil => exact ⟨[], rfl⟩
  | cons i code ih =>
    obtain ⟨stack, bindings, recorded, eq⟩ := step_plain service m (plain i List.mem_cons_self)
    obtain ⟨trace, later⟩ := ih (m := { m with stack, bindings, recorded }) (s := s)
      (fun i mem => plain i (List.mem_cons_of_mem _ mem)) going (cursor + 1)
    refine ⟨{ m with stack, bindings, recorded, cursor } :: trace, ?_⟩
    rw [List.cons_append, steps_cons service (eq m.cursor s)]
    simp only [runFrom, eq cursor, going, Bool.false_eq_true, if_false, later, List.length_cons]
    rw [Nat.add_right_comm]
    rfl

/-- So do turns. -/
theorem play_steps (service : Service σ Empty) (plain : ∀ i ∈ code, ∀ r, i ≠ .request r)
    (cursor : Nat) : ∃ stop, play service code ({ m with cursor }, s) =
      let p := steps service code m s
      ({ p.machine with cursor := stop }, p.service) := by
  induction code generalizing m s cursor with
  | nil => exact ⟨cursor, rfl⟩
  | cons i code ih =>
    obtain ⟨stack, bindings, recorded, eq⟩ := step_plain service m (plain i List.mem_cons_self)
    obtain ⟨stop, later⟩ := ih (m := { m with stack, bindings, recorded }) (s := s)
      (fun i mem => plain i (List.mem_cons_of_mem _ mem)) (cursor + 1)
    refine ⟨stop, ?_⟩
    rw [steps_cons service (eq m.cursor s), ← later, play_cons, turn, eq cursor]

end Pieces

/-! ### Machines that have nothing to show -/

section Muted

variable {m}

theorem settle_recorded (silent : m.silent = true) (r : RequestForm) (o : Operands)
    (reply : Option Reply) : (m.settle r o reply).recorded = m.recorded := by
  unfold settle
  cases failure? o reply with
  | none => rfl
  | some reason => simp only [routeError, silent, if_true]

theorem step_recorded (silent : m.silent = true) (quiet : m.quiet = true) (i : Instruction) :
    (step service i m s).machine.recorded = m.recorded := by
  rcases request_or_step_eq service i m with ⟨r, rfl⟩ | ⟨stack, bindings, recorded, kept, eq⟩
  · rcases step_request service r m s with ⟨-, eq⟩ | ⟨o, -, ⟨e, -, eq⟩ | ⟨reply, -, -, eq⟩⟩
    · rw [eq]
    · rw [eq]
    · rw [eq]
      exact settle_recorded (m := { m with stack := o.url :: o.below }) silent r o reply
  · rw [eq]
    exact kept quiet

theorem runFrom_recorded (silent : m.silent = true) (quiet : m.quiet = true) :
    (runFrom (step service) program m s).machine.recorded = m.recorded := by
  induction program generalizing m s with
  | nil => rfl
  | cons i rest ih =>
    have modes := step_modes service i m s
    have kept := step_recorded service s silent quiet i
    simp only [Machine.modes, Prod.mk.injEq] at modes
    rcases runFrom_step service m s i rest with ⟨e, eq⟩ | eq | ⟨trace, eq⟩
    · rw [eq]
      exact kept
    · rw [eq]
      exact kept
    · rw [eq]
      let moved : Machine :=
        { (step service i m s).machine with cursor := (step service i m s).machine.cursor + 1 }
      exact (ih (m := moved) _ (modes.1.trans silent) (modes.2.1.trans quiet)).trans kept

/-- A machine that is silent and quiet records nothing. -/
theorem run_recorded (silent : m.silent = true) (quiet : m.quiet = true) :
    (run service program m s).machine.recorded = m.recorded :=
  runFrom_recorded service program s silent quiet

end Muted

/-! ### What a service carries along -/

section Carried

variable {service} {f : σ → σ} (same : service.Commutes f)

include same

theorem step_commutes (i : Instruction) :
    step service i m (f s) =
      { step service i m s with service := f (step service i m s).service } := by
  rcases request_or_step_eq service i m with ⟨r, rfl⟩ | ⟨stack, bindings, recorded, -, eq⟩
  · simp only [step, request]
    split
    · rfl
    · next o taken =>
      rw [same]
      rcases service.send r.method o.url o.body s with ⟨e | reply, s'⟩
      · rfl
      · cases passed : service.unwritable? reply <;> simp only [passed]
  · rw [eq, eq]

theorem runFrom_commutes :
    runFrom (step service) program m (f s) =
      { runFrom (step service) program m s with
        service := f (runFrom (step service) program m s).service } := by
  induction program generalizing m s with
  | nil => rfl
  | cons i rest ih =>
    simp only [runFrom, step_commutes m s same i]
    cases fault : (step service i m s).fault with
    | some e => rfl
    | none =>
      simp only [ih]
      split <;> rfl

theorem run_commutes :
    run service program m (f s) =
      { run service program m s with service := f (run service program m s).service } :=
  runFrom_commutes program _ s same

end Carried

end Machine

/-- Traffic with some events before it. -/
def Traffic.after {τ : Type} (events : List Event) (traffic : Traffic τ) : Traffic τ :=
  { traffic with log := events ++ traffic.log }

/-- The requests of a client are the same whatever was done before. -/
theorem Client.service_commutes {τ : Type} (transport : Transport τ) (config : Value)
    (events : List Event) : (service transport config).Commutes (Traffic.after events) := by
  intro method url body traffic
  simp only [service, Traffic.after, List.append_assoc]

end RouteScript
