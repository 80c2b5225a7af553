import RouteScript.Document.Node
import RouteScript.Document.Scalar

/-!
The data of a document.

Collections become sequences and mappings; of equal keys the last value counts,
in the place of the first. A document has one value that is not a number, however
often it is written, so that this too is a single key (`Key.same`). Of several
faults the one at the least depth is reported, and among those the first. A
document without content is nothing.
-/

namespace RouteScript.Document

/-- Why a document has no data. -/
inductive Fault where
  | malformed (m : Malformed)
  | scalar (f : ScalarFault)
  deriving DecidableEq, Repr

namespace Fault

/-- The greatest code that is looked up among the characters at all. -/
def codeLimit : Nat := 0x7FFFFFFF

/-- The kind of failure. A code that is too great to be looked up is out of range. -/
def kind : Fault → FaultKind
  | malformed (.noCharacter code) => if codeLimit < code then .overflow else .value
  | malformed _ => .value
  | scalar f => f.kind

/-- The wording of a fault. A code without a character is not a matter of form. -/
def message : Fault → String
  | malformed (.noCharacter code) =>
    if codeLimit < code then "Python int too large to convert to C int"
    else "chr() arg not in range(0x110000)"
  | malformed m => "invalid YAML: " ++ m.message
  | scalar f => f.message

end Fault

/-- Two plain scalars have a meaning of their own that no data can have. -/
def isReserved (text : String) : Bool := text = "<<" || text = "="

/-- A key of a mapping of a document. -/
structure Key where
  value : Value

namespace Key

/-- Whether two keys of a document are the same: equal, or both not a number. -/
def same (k l : Key) : Bool := k.value == l.value || k.value.isNaN && l.value.isNaN

instance : BEq Key := ⟨same⟩

end Key

namespace Node

/-- The value of a scalar. -/
def scalarValue (text : String) (plain : Bool) : Except Fault Value :=
  if plain then
    if isReserved text then .error (.malformed .noToken) else (plainValue text).mapError .scalar
  else .ok (.text text)

/-- The value of a scalar that is a key. -/
def keyValue (text : String) (plain : Bool) : Except Fault Value :=
  if text = "=" then .ok (.text text) else scalarValue text plain

/-- A fault at a depth, if there is one. -/
def faultAt {α : Type} (depth : Nat) : Except Fault α → List (Nat × Fault)
  | .ok _ => []
  | .error f => [(depth, f)]

mutual

/-- The faults of a node at a depth, in the order of the document. -/
def faults (depth : Nat) : Node → List (Nat × Fault)
  | scalar text plain => faultAt depth (scalarValue text plain)
  | sequence items => itemFaults (depth + 1) items
  | mapping entries => entryFaults (depth + 1) entries

/-- The faults of items. -/
def itemFaults (depth : Nat) : List Node → List (Nat × Fault)
  | [] => []
  | item :: rest => faults depth item ++ itemFaults depth rest

/-- The faults of entries. A collection is no key. -/
def entryFaults (depth : Nat) : List (Node × Node) → List (Nat × Fault)
  | [] => []
  | (key, v) :: rest =>
    (match key with
      | scalar text plain => faultAt depth (keyValue text plain)
      | _ => [(depth, .malformed .collectionAsKey)]) ++ faults depth v ++ entryFaults depth rest

end

/-- The fault to report: the first of those at the least depth. -/
def firstFault? : List (Nat × Fault) → Option (Nat × Fault)
  | [] => none
  | f :: rest =>
    match firstFault? rest with
    | some g => some (if g.1 < f.1 then g else f)
    | none => some f

mutual

/-- The data of a node without faults. -/
def data : Node → Value
  | scalar text plain => (scalarValue text plain).toOption.getD .null
  | sequence items => .list (itemData items)
  | mapping entries =>
    .dict ((Assoc.ofPairs (entryData entries)).map fun (key, v) => (key.value, v))

/-- The data of items. -/
def itemData : List Node → List Value
  | [] => []
  | item :: rest => data item :: itemData rest

/-- The data of entries. -/
def entryData : List (Node × Node) → List (Key × Value)
  | [] => []
  | (key, v) :: rest =>
    (match key with
      | scalar text plain => (⟨(keyValue text plain).toOption.getD .null⟩, data v)
      | _ => (⟨.null⟩, data v)) :: entryData rest

end

end Node

/-- The data of a document. -/
def load (text : String) : Except Fault Value := do
  let tokens ← (Token.ofText text).mapError .malformed
  match ← (Node.ofTokens? tokens).mapError .malformed with
  | none => return .null
  | some root =>
    match Node.firstFault? (root.faults 0) with
    | some (_, f) => throw f
    | none => return root.data

end RouteScript.Document
