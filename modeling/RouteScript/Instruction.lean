/-!
The instructions of compiled scripts.

A program is a flat list of instructions over a stack of texts. There are eight:
five that move texts about, and three requests that differ in what they do with
the reply (`ReplyUse`).
-/

namespace RouteScript

/-- The request methods. -/
inductive Method where
  | get
  | post
  | put
  | delete
  deriving DecidableEq, Repr

/-- The word for a method on the wire. -/
def Method.text : Method → String
  | get => "GET"
  | post => "POST"
  | put => "PUT"
  | delete => "DELETE"

/-- What becomes of the text of a reply: nothing, or it is pushed for a binding,
or it is compared with an expected text. -/
inductive ReplyUse where
  | discard
  | capture
  | compare
  deriving DecidableEq, Repr

/-- A request as it is written in a program. Its operands on the stack are, top
first: the expected text (`compare` only), the expected status, the body
(`hasBody` only) and the URL. -/
structure RequestForm where
  use : ReplyUse
  method : Method
  hasBody : Bool
  deriving DecidableEq, Repr

/-- How many operands a request takes. -/
def RequestForm.operands (r : RequestForm) : Nat :=
  (if r.use = .compare then 3 else 2) + if r.hasBody then 1 else 0

/-- An instruction of the machine. -/
inductive Instruction where
  /-- Pushes a text. -/
  | pushLiteral (text : String)
  /-- Binds a name to the top of the stack, which stays. -/
  | bindVariable (name : String)
  /-- Pushes the value of a name. -/
  | readVariable (name : String)
  /-- Joins the two topmost texts, the upper one last. -/
  | concatenate
  /-- Shows the top of the stack. -/
  | print
  /-- Sends a request. -/
  | request (form : RequestForm)
  deriving DecidableEq, Repr

/-- A compiled script. -/
abbrev Program := List Instruction

end RouteScript
