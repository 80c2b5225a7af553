import RouteScript.Assoc
import RouteScript.Client.Exchange
import RouteScript.Instruction

/-!
The stack machine, one instruction at a time.

The machine holds a stack of texts, a table of variables and two counters, of
routes that passed and of routes that failed. It writes nothing itself: printed
values and failures of routes are recorded as effects. Requests are made by a
`Service`, which may pass on a failure; what the machine did before that stands.

An instruction that lacks operands does nothing, except that a request counts as
failed. The status of a reply is compared as it is written, and one with too many
digits cannot be (`Service.unwritable?`).
-/

namespace RouteScript

/-- Something that makes requests; `σ` is its state and `ε` what is passed on. -/
structure Service (σ ε : Type) where
  send : Method → String → Option String → σ → Except ε (Option Reply) × σ
  /-- What a machine passes on when it cannot write the status of a reply. With nothing to pass
  on it writes any status. -/
  unwritten : ConversionError → Option ε := fun _ => none

/-- What a machine passes on over a reply, whose status it has to write. -/
def Service.unwritable? {σ ε : Type} (service : Service σ ε) : Option Reply → Option ε
  | none => none
  | some reply =>
    match (Value.int reply.status).toText with
    | .ok _ => none
    | .error e => service.unwritten e

/-- A service that has nothing to pass on takes any status. -/
@[simp] theorem Service.unwritable?_eq_none {σ : Type} (service : Service σ Empty)
    (reply : Option Reply) : service.unwritable? reply = none := by
  cases passed : service.unwritable? reply with
  | none => rfl
  | some e => cases e

/-- Something for the host to show. -/
structure Effect where
  topic : String
  message : String
  deriving DecidableEq, Repr

/-- The machine between two instructions. -/
structure Machine where
  /-- The values, top first. -/
  stack : List String := []
  /-- The values of the names bound so far. -/
  bindings : List (String × String) := []
  /-- The routes that passed. -/
  ok : Nat := 0
  /-- The routes that failed. -/
  err : Nat := 0
  cursor : Nat := 0
  /-- What was recorded, newest first. -/
  recorded : List Effect := []
  silent : Bool := false
  quiet : Bool := false
  blocking : Bool := false
  deriving DecidableEq, Repr

/-- The machine and the service behind an instruction, and what was passed on. -/
structure Progress (σ ε : Type) where
  machine : Machine
  service : σ
  fault : Option ε := none

/-- The operands of a request, and the stack below them. -/
structure Operands where
  expected : Option String
  status : String
  body : Option String
  url : String
  below : List String
  deriving DecidableEq, Repr

/-- Takes the operands of a request off a stack that holds enough of them. -/
def RequestForm.operands? (r : RequestForm) (stack : List String) : Option Operands :=
  match decide (r.use = .compare), r.hasBody, stack with
  | true, true, expected :: status :: body :: url :: below =>
    some ⟨some expected, status, some body, url, below⟩
  | true, false, expected :: status :: url :: below =>
    some ⟨some expected, status, none, url, below⟩
  | false, true, status :: body :: url :: below => some ⟨none, status, some body, url, below⟩
  | false, false, status :: url :: below => some ⟨none, status, none, url, below⟩
  | _, _, _ => none

namespace Machine

/-- What was recorded, oldest first. -/
def effects (m : Machine) : List Effect := m.recorded.reverse

/-- Records an effect. -/
def emit (m : Machine) (topic message : String) : Machine :=
  { m with recorded := ⟨topic, message⟩ :: m.recorded }

@[simp] theorem effects_emit (m : Machine) (topic message : String) :
    (m.emit topic message).effects = m.effects ++ [⟨topic, message⟩] := by
  simp [effects, emit]

/-- Counts a failed route and records why, unless the machine is silent. -/
def routeError (m : Machine) (method : Method) (url reason : String) : Machine :=
  let counted := { m with err := m.err + 1 }
  if m.silent then counted
  else counted.emit "stderr" s!"route error: {method.text} {url} : {reason}"

/-- Why a route failed, if it did: there is no reply, or not the expected status, or
not the expected text. -/
def failure? (o : Operands) : Option Reply → Option String
  | none => some "Unable to make request"
  | some reply =>
    if toString reply.status ≠ o.status then some "Invalid response code"
    else match o.expected with
      | some text => if reply.text ≠ text then some "Invalid expected response" else none
      | none => none

/-- Counts a route by its reply and leaves what becomes of it on the stack. -/
def settle (m : Machine) (r : RequestForm) (o : Operands) (reply : Option Reply) : Machine :=
  let counted := match failure? o reply with
    | some reason => m.routeError r.method o.url reason
    | none => { m with ok := m.ok + 1 }
  { counted with
    stack := if r.use = .capture then ((reply.map (·.text)).getD "") :: o.below else o.below }

/-- Makes a request. The URL stays on the stack until the outcome is known. -/
def request {σ ε : Type} (service : Service σ ε) (r : RequestForm) (m : Machine) (s : σ) :
    Progress σ ε :=
  match r.operands? m.stack with
  | none => { machine := { m with err := m.err + 1 }, service := s }
  | some o =>
    let waiting := { m with stack := o.url :: o.below }
    match service.send r.method o.url o.body s with
    | (.error e, s) => { machine := waiting, service := s, fault := some e }
    | (.ok reply, s) =>
      match service.unwritable? reply with
      | some e => { machine := waiting, service := s, fault := some e }
      | none => { machine := waiting.settle r o reply, service := s }

/-- Executes one instruction. -/
def step {σ ε : Type} (service : Service σ ε) (i : Instruction) (m : Machine) (s : σ) :
    Progress σ ε :=
  match i with
  | .pushLiteral text => { machine := { m with stack := text :: m.stack }, service := s }
  | .bindVariable name =>
    match m.stack with
    | top :: _ =>
      { machine := { m with bindings := Assoc.set name top m.bindings }, service := s }
    | [] => { machine := m, service := s }
  | .readVariable name =>
    match m.bindings.lookup name with
    | some v => { machine := { m with stack := v :: m.stack }, service := s }
    | none => { machine := m, service := s }
  | .concatenate =>
    match m.stack with
    | top :: second :: below =>
      { machine := { m with stack := (second ++ top) :: below }, service := s }
    | _ => { machine := m, service := s }
  | .print =>
    match m.quiet, m.stack with
    | false, top :: below =>
      { machine := { m with stack := below }.emit "stdout" top, service := s }
    | _, _ => { machine := m, service := s }
  | .request r => m.request service r s

end Machine

end RouteScript
