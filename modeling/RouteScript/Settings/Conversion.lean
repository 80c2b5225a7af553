import RouteScript.Settings.Value

/-!
Making numbers, texts and mappings of configuration data.

Each conversion accepts more than its own kind: a float can be had from a truth
value, an integer or a text, and a mapping from any sequence of pairs.
`ConversionError.message` words each refusal and `ConversionError.kind` tells
whether the kind of the value, the value itself or its size is at fault.
-/

namespace RouteScript

/-- The broad kinds of failures. -/
inductive FaultKind where
  /-- A value of the right kind that makes no sense. -/
  | value
  /-- A value of the wrong kind. -/
  | type
  /-- A number out of range. -/
  | overflow
  deriving DecidableEq, Repr

/-- Why data could not be converted. -/
inductive ConversionError where
  | notFloat (s : String)
  | notInteger (base : Nat) (s : String)
  | tooManyDigits (count : Nat)
  | noFloatOf (kind : String)
  | noIntegerOf (kind : String)
  | integerTooLarge
  | integerOfNaN
  | integerOfInfinity
  | textTooLong
  | notIterable (kind : String)
  | notSequence (index : Nat)
  | notPair (index length : Nat)
  | noKey (kind : String)
  deriving DecidableEq, Repr

namespace ConversionError

/-- The kind of failure. -/
def kind : ConversionError → FaultKind
  | notFloat _ | notInteger .. | tooManyDigits _ | integerOfNaN | textTooLong | notPair .. => .value
  | noFloatOf _ | noIntegerOf _ | notIterable _ | notSequence _ | noKey _ => .type
  | integerTooLarge | integerOfInfinity => .overflow

/-- What is said about numbers with more digits than are converted. -/
def limitText : String :=
  s!"Exceeds the limit ({Decimal.digitLimit} digits) for integer string conversion"

/-- The advice that goes with it. -/
def limitAdvice : String := "use sys.set_int_max_str_digits() to increase the limit"

/-- The wording of a failure. A text that is no integer is quoted up to 200
characters. -/
def message : ConversionError → String
  | notFloat s => "could not convert string to float: " ++ Text.quote s
  | notInteger base s =>
    s!"invalid literal for int() with base {base}: " ++
      String.ofList ((Text.quote s).toList.take 200)
  | tooManyDigits count => s!"{limitText}: value has {count} digits; {limitAdvice}"
  | noFloatOf kind => s!"float() argument must be a string or a real number, not '{kind}'"
  | noIntegerOf kind =>
    s!"int() argument must be a string, a bytes-like object or a real number, not '{kind}'"
  | integerTooLarge => "int too large to convert to float"
  | integerOfNaN => "cannot convert float NaN to integer"
  | integerOfInfinity => "cannot convert float infinity to integer"
  | textTooLong => s!"{limitText}; {limitAdvice}"
  | notIterable kind => s!"'{kind}' object is not iterable"
  | notSequence index =>
    s!"cannot convert dictionary update sequence element #{index} to a sequence"
  | notPair index length =>
    s!"dictionary update sequence element #{index} has length {length}; 2 is required"
  | noKey kind => s!"unhashable type: '{kind}'"

end ConversionError

namespace Value

/-- The float nearest to an integer. -/
def floatOfInt (n : Int) : Except ConversionError Float :=
  let x := Float.ofScientific n.natAbs false 0
  if x.isInf then .error .integerTooLarge else .ok (if n < 0 then -x else x)

/-- A value as a float. -/
def toFloat : Value → Except ConversionError Float
  | bool b => .ok (if b then 1.0 else 0.0)
  | int n => floatOfInt n
  | float x => .ok x
  | text s =>
    match Decimal.readFloat? s with
    | some x => .ok x
    | none => .error (.notFloat s)
  | v => .error (.noFloatOf v.kindName)

/-- A value as an integer; a float loses its fraction. -/
def toInt : Value → Except ConversionError Int
  | bool b => .ok (if b then 1 else 0)
  | int n => .ok n
  | float x =>
    if x.isNaN then .error .integerOfNaN
    else if x.isInf then .error .integerOfInfinity
    else .ok (Decimal.truncate x).1
  | text s =>
    match Decimal.readInteger s with
    | .ok n => .ok n
    | .error .notNumeral => .error (.notInteger 10 s)
    | .error (.tooManyDigits count) => .error (.tooManyDigits count)
  | v => .error (.noIntegerOf v.kindName)

/-- A value as a text. -/
def toText (v : Value) : Except ConversionError String :=
  v.asText.mapError fun _ => .textTooLong

/-- The members of a value that is a sequence of some kind; those of a mapping are
its keys. -/
def members? : Value → Option (List Value)
  | text s => some (s.toList.map fun c => .text (String.singleton c))
  | list items => some items
  | dict entries => some (entries.map (·.1))
  | _ => none

/-- Adds a pair to a mapping. -/
def setEntry (key v : Value) (entries : List (Value × Value)) :
    Except ConversionError (List (Value × Value)) :=
  if key.isKey then .ok (Assoc.set key v entries) else .error (.noKey key.kindName)

/-- The mapping of a list of pairs: of equal keys the last value counts, in the
place of the first. -/
def ofPairs (pairs : List (Value × Value)) : Except ConversionError Value :=
  (pairs.foldlM (fun entries (k, v) => setEntry k v entries) []).map dict

/-- Adds the members of a sequence of pairs to a mapping; `index` counts the
members before. -/
def addPairs (index : Nat) (entries : List (Value × Value)) :
    List Value → Except ConversionError (List (Value × Value))
  | [] => .ok entries
  | item :: rest => do
    match item.members? with
    | none => .error (.notSequence index)
    | some [k, v] => addPairs (index + 1) (← setEntry k v entries) rest
    | some other => .error (.notPair index other.length)

/-- A value as a mapping. -/
def toEntries : Value → Except ConversionError (List (Value × Value))
  | dict entries => .ok entries
  | v =>
    match v.members? with
    | some items => addPairs 0 [] items
    | none => .error (.notIterable v.kindName)

/-- A value as a mapping, the empty one for anything that counts as false. -/
def entriesOrEmpty (v : Value) : Except ConversionError (List (Value × Value)) :=
  if v.truthy then v.toEntries else .ok []

end Value

end RouteScript
