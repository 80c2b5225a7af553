import RouteScript.Machine.Basic
import RouteScript.Proofs.Grammar

/-!
What a script does, apart from the machine.

Statements are evaluated one after the other over the values of the names so far.
There is no stack. A `Server` answers every request, with a reply or with none, and
may change its state in doing so.

A name without a value has no meaning. A script in scope never meets one
(`evaluate_isSome`).
-/

namespace RouteScript

/-- Something that answers requests; `σ` is its state. -/
abbrev Server (σ : Type) := Method → String → Option String → σ → Option Reply × σ

/-- A request as it was made. -/
structure Call where
  method : Method
  url : String
  body : Option String
  deriving DecidableEq, Repr

/-- A server that keeps a list of the requests, oldest first. -/
def Server.noting {σ : Type} (server : Server σ) : Server (σ × List Call) :=
  fun method url body (s, calls) =>
    let (reply, s) := server method url body s
    (reply, s, calls ++ [⟨method, url, body⟩])

/-- A server as the service of a machine. -/
def Server.service {σ ε : Type} (server : Server σ) : Service σ ε where
  send method url body s :=
    let (reply, s) := server method url body s
    (.ok reply, s)

namespace Script

/-- What a script has done so far. -/
structure Conduct (σ : Type) where
  /-- The values of the names. -/
  values : List (String × String) := []
  /-- The routes that passed. -/
  ok : Nat := 0
  /-- The routes that failed. -/
  err : Nat := 0
  /-- What was shown, oldest first. -/
  effects : List Effect := []
  /-- The requests, oldest first. -/
  calls : List Call := []
  server : σ

/-! ### Values -/

/-- The value of an operand. -/
def Operand.value? (values : List (String × String)) : Operand → Option String
  | .text t => some t
  | .name n => values.lookup n

/-- The values of the operands, from left to right. -/
def Expression.value? (values : List (String × String)) : Expression → Option String
  | .single o => o.value? values
  | .join o rest => do
    let first ← o.value? values
    let others ← rest.value? values
    return first ++ others

/-- The body of a request, if there is one. -/
def bodyValue? (values : List (String × String)) : Option Expression → Option (Option String)
  | none => some none
  | some e => (e.value? values).map some

/-- The text that is expected of a reply, if one is. -/
def Reaction.value? (values : List (String × String)) : Reaction → Option (Option String)
  | .ignore | .capture _ => some none
  | .compare e => (e.value? values).map some

/-! ### Statements -/

/-- What is wrong with an answer. -/
def complaint? (status : String) (expected : Option String) : Option Reply → Option String
  | none => some "Unable to make request"
  | some reply =>
    if toString reply.status ≠ status then some "Invalid response code"
    else if expected.any (reply.text != ·) then some "Invalid expected response"
    else none

namespace Conduct

variable {σ : Type}

/-- Shows a text to the host. -/
def tell (c : Conduct σ) (topic message : String) : Conduct σ :=
  { c with effects := c.effects ++ [⟨topic, message⟩] }

/-- Gives a name a value. -/
def bind (c : Conduct σ) (name value : String) : Conduct σ :=
  { c with values := Assoc.set name value c.values }

/-- Makes a request. -/
def ask (c : Conduct σ) (server : Server σ) (call : Call) : Option Reply × Conduct σ :=
  let (reply, s) := server call.method call.url call.body c.server
  (reply, { c with server := s, calls := c.calls ++ [call] })

/-- Counts a request, and tells what is wrong unless told to be silent. -/
def count (c : Conduct σ) (silent : Bool) (call : Call) : Option String → Conduct σ
  | none => { c with ok := c.ok + 1 }
  | some reason =>
    let failed := { c with err := c.err + 1 }
    if silent then failed
    else failed.tell "stderr" s!"route error: {call.method.text} {call.url} : {reason}"

end Conduct

variable {σ : Type}

/-- Gives the name of a capture the text of the reply; without a reply it is empty. -/
def Reaction.keep (reply : Option Reply) (c : Conduct σ) : Reaction → Conduct σ
  | .capture name => c.bind name ((reply.map (·.text)).getD "")
  | .ignore | .compare _ => c

/-- Evaluates a statement. -/
def Statement.evaluate (server : Server σ) (silent quiet : Bool) (c : Conduct σ) :
    Statement → Option (Conduct σ)
  | .assign name e => do
    let value ← e.value? c.values
    return c.bind name value
  | .print e => do
    let value ← e.value? c.values
    return if quiet then c else c.tell "stdout" value
  | .request method url body status reaction => do
    let url ← url.value? c.values
    let body ← bodyValue? c.values body
    let expected ← reaction.value? c.values
    let call : Call := ⟨method, url, body⟩
    let (reply, asked) := c.ask server call
    let counted := asked.count silent call (complaint? (status.getD "200") expected reply)
    return reaction.keep reply counted

/-- Evaluates the statements of a script in order. -/
def evaluate (server : Server σ) (silent quiet : Bool) (script : List Statement) (c : Conduct σ) :
    Option (Conduct σ) :=
  script.foldlM (Statement.evaluate server silent quiet) c

/-! ### Scope

A script in scope has a meaning: names get values and keep one. -/

/-- Each of some names has a value. -/
def Known (names : List String) (values : List (String × String)) : Prop :=
  ∀ n ∈ names, ∃ v, values.lookup n = some v

theorem Known.mono {names others : List String} {values : List (String × String)}
    (known : Known names values) (sub : ∀ n ∈ others, n ∈ names) : Known others values := by
  intro n hn
  exact known n (sub n hn)

theorem Known.set {names : List String} {values : List (String × String)}
    (known : Known names values) (name value : String) :
    Known (name :: names) (Assoc.set name value values) := by
  intro n hn
  by_cases same : n = name
  · subst same
    exact ⟨value, Assoc.lookup_set_self n value values⟩
  · have old : n ∈ names := by
      rcases List.mem_cons.mp hn with new | old
      · exact absurd new same
      · exact old
    obtain ⟨v, hv⟩ := known n old
    exact ⟨v, by rw [Assoc.lookup_set_of_ne same, hv]⟩

theorem Operand.value?_isSome {o : Operand} {values : List (String × String)}
    (known : ∀ n, o.name? = some n → ∃ v, values.lookup n = some v) :
    ∃ v, o.value? values = some v := by
  cases o with
  | text t => exact ⟨t, rfl⟩
  | name n => exact known n rfl

theorem Expression.value?_isSome {e : Expression} {values : List (String × String)}
    (known : Known e.names values) : ∃ v, e.value? values = some v := by
  induction e with
  | single o => exact o.value?_isSome fun n hn => known n (mem_names_single.mpr hn)
  | join o rest ih =>
    obtain ⟨first, h₁⟩ := o.value?_isSome fun n hn => known n (mem_names_join.mpr (.inl hn))
    obtain ⟨others, h₂⟩ := ih (known.mono fun n hn => mem_names_join.mpr (.inr hn))
    exact ⟨first ++ others, by simp [Expression.value?, h₁, h₂]⟩

theorem bodyValue?_isSome {body : Option Expression} {values : List (String × String)}
    (known : Known (bodyNames body) values) : ∃ v, bodyValue? values body = some v := by
  cases body with
  | none => exact ⟨none, rfl⟩
  | some e =>
    obtain ⟨v, h⟩ := Expression.value?_isSome known
    exact ⟨some v, by simp [bodyValue?, h]⟩

theorem Reaction.value?_isSome {reaction : Reaction} {values : List (String × String)}
    (known : Known reaction.names values) : ∃ v, reaction.value? values = some v := by
  cases reaction with
  | ignore => exact ⟨none, rfl⟩
  | capture name => exact ⟨none, rfl⟩
  | compare e =>
    obtain ⟨v, h⟩ := Expression.value?_isSome known
    exact ⟨some v, by simp [Reaction.value?, h]⟩

theorem Conduct.count_values (c : Conduct σ) (silent : Bool) (call : Call)
    (reason : Option String) : (c.count silent call reason).values = c.values := by
  cases reason with
  | none => rfl
  | some reason => cases silent <;> rfl

theorem Conduct.count_server (c : Conduct σ) (silent : Bool) (call : Call)
    (reason : Option String) : ((c.count silent call reason).server,
      (c.count silent call reason).calls) = (c.server, c.calls) := by
  cases reason with
  | none => rfl
  | some reason => cases silent <;> rfl

/-- A statement whose names have values has a meaning, and gives its target one. -/
theorem Statement.evaluate_isSome {s : Statement} {names : List String} {c : Conduct σ}
    (known : Known names c.values) (reads : ∀ n ∈ s.reads, n ∈ names) (server : Server σ)
    (silent quiet : Bool) :
    ∃ c', s.evaluate server silent quiet c = some c' ∧
      Known (s.target?.toList ++ names) c'.values := by
  cases s with
  | assign name e =>
    obtain ⟨v, h⟩ := Expression.value?_isSome (known.mono reads)
    exact ⟨c.bind name v, by simp [Statement.evaluate, h], known.set name v⟩
  | print e =>
    obtain ⟨v, h⟩ := Expression.value?_isSome (known.mono reads)
    refine ⟨if quiet then c else c.tell "stdout" v, by simp [Statement.evaluate, h], ?_⟩
    cases quiet <;> exact known
  | request method url body status reaction =>
    simp only [Statement.reads, List.mem_append] at reads
    obtain ⟨u, hurl⟩ := Expression.value?_isSome (known.mono fun n hn => reads n (.inl (.inl hn)))
    obtain ⟨b, hbody⟩ := bodyValue?_isSome (known.mono fun n hn => reads n (.inl (.inr hn)))
    obtain ⟨e, hreaction⟩ := Reaction.value?_isSome (known.mono fun n hn => reads n (.inr hn))
    refine ⟨_, by simp only [Statement.evaluate, hurl, hbody, hreaction]; rfl, ?_⟩
    cases reaction with
    | ignore =>
      rw [Reaction.keep, Conduct.count_values]
      exact known
    | compare e =>
      rw [Reaction.keep, Conduct.count_values]
      exact known
    | capture name =>
      simp only [Reaction.keep, Conduct.bind, Conduct.count_values]
      exact known.set name _

/-- A script in scope has a meaning. -/
theorem evaluate_isSome {script : List Statement} {names : List String} {c : Conduct σ}
    (known : Known names c.values)
    (scope : InScopeOf Statement.reads Statement.target? names script) (server : Server σ)
    (silent quiet : Bool) : ∃ c', evaluate server silent quiet script c = some c' := by
  induction script generalizing names c with
  | nil => exact ⟨c, rfl⟩
  | cons s rest ih =>
    obtain ⟨c₁, first, known₁⟩ := s.evaluate_isSome known scope.1 server silent quiet
    obtain ⟨c₂, later⟩ := ih known₁ scope.2
    refine ⟨c₂, ?_⟩
    simp only [evaluate, List.foldlM_cons, first]
    exact later

end Script

end RouteScript
