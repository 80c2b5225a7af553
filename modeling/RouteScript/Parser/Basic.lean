import RouteScript.Diagnostic.Sink
import RouteScript.Instruction
import RouteScript.Token

/-!
A parser between two steps, and its primitive steps.

The parser reads tokens from left to right and emits instructions as it goes.
It looks at the current token, and at the previous one for a message; looking at
a token behind the last one is a failure of its own (`PastEnd`).
-/

namespace RouteScript

/-- A token was asked for behind the last one. -/
inductive PastEnd where
  | pastEnd
  deriving DecidableEq, Repr

/-- The state of a parser. -/
structure Parser where
  /-- How many tokens were passed. -/
  cursor : Nat := 0
  /-- The token before the current one. -/
  previous : Option Token := none
  /-- The current token and those behind it. -/
  rest : List Token
  /-- The instructions emitted so far, last first. -/
  emitted : List Instruction := []
  /-- The names that have a value by now. -/
  declared : List String := []
  diagnostics : Diagnostics
  deriving DecidableEq, Repr

namespace Parser

/-- The instructions emitted so far. -/
def program (p : Parser) : Program := p.emitted.reverse

/-- The current token. -/
def current (p : Parser) : Except PastEnd Token :=
  match p.rest with
  | [] => .error .pastEnd
  | t :: _ => .ok t

/-- Passes the current token. Behind the end only the count of tokens changes. -/
def next (p : Parser) : Parser :=
  { p with cursor := p.cursor + 1, previous := p.rest.head?, rest := p.rest.tail }

/-- Whether no token is left. -/
def atEnd (p : Parser) : Bool := p.rest.isEmpty

/-- Appends an instruction to the program. -/
def emit (p : Parser) (i : Instruction) : Parser := { p with emitted := i :: p.emitted }

/-- Notes that a name has a value. -/
def declare (p : Parser) (name : String) : Parser :=
  if p.declared.contains name then p else { p with declared := name :: p.declared }

/-- Records an error. -/
def report (p : Parser) (d : Diagnostic) : Parser :=
  { p with diagnostics := p.diagnostics.push d }

/-- Whether a token follows the current one. If none does, that is an error at
the end of the current token, which is passed. -/
def checkNearEnd (expected : String) (p : Parser) : Except PastEnd (Bool × Parser) :=
  match p.rest with
  | [] => .error .pastEnd
  | [t] => .ok (false, (p.report (.expectedToken t.loc.stop expected)).next)
  | _ :: _ :: _ => .ok (true, p)

/-- Records that the current token is out of place. It is not passed. -/
def unexpected (expected : String) (p : Parser) : Except PastEnd Parser :=
  p.current.map fun t =>
    let after := (p.previous.map (·.loc.stop)).getD t.loc.start
    p.report (.unexpectedToken t.loc expected after)

/-! ### What remains to be read -/

@[simp] theorem rest_next (p : Parser) : p.next.rest = p.rest.tail := rfl

@[simp] theorem rest_emit (p : Parser) (i : Instruction) : (p.emit i).rest = p.rest := rfl

@[simp] theorem rest_report (p : Parser) (d : Diagnostic) : (p.report d).rest = p.rest := rfl

@[simp] theorem rest_declare (p : Parser) (name : String) : (p.declare name).rest = p.rest := by
  unfold declare; split <;> rfl

/-- A near-end check that succeeds changes nothing; one that fails passes the
last token. -/
theorem rest_checkNearEnd {expected : String} {p q : Parser} {near : Bool}
    (h : p.checkNearEnd expected = .ok (near, q)) :
    (near = true ∧ q = p ∧ 2 ≤ p.rest.length) ∨
      (near = false ∧ q.rest = [] ∧ p.rest.length = 1) := by
  unfold checkNearEnd at h
  split at h
  · cases h
  · next rest =>
    cases h
    exact .inr ⟨rfl, by simp [rest], by simp [rest]⟩
  · next rest =>
    cases h
    exact .inl ⟨rfl, rfl, by simp [rest]⟩

theorem rest_unexpected {expected : String} {p q : Parser}
    (h : p.unexpected expected = .ok q) : q.rest = p.rest := by
  unfold unexpected current at h
  split at h <;> cases h
  rfl

end Parser

end RouteScript
