import RouteScript.Assoc
import RouteScript.Decimal.Numeral
import RouteScript.Decimal.Shortest
import RouteScript.Text.Quoted

/-!
Configuration data, before anybody has checked what kind of thing it is.

A `Value` is what a configuration file can hold. Numbers compare as numbers
whatever their kind, so that `true`, `1` and `1.0` are one and the same mapping
key (`Value.sameKey`); sequences and mappings are no keys at all. `Value.text` is
the text of a value, `Value.shown` the form it takes inside another value.
-/

namespace RouteScript

/-- Configuration data. The pairs of a mapping keep their order. -/
inductive Value where
  | null
  | bool (b : Bool)
  | int (n : Int)
  | float (x : Float)
  | text (s : String)
  | date (year month day : Nat)
  | list (items : List Value)
  | dict (entries : List (Value × Value))
  deriving Inhabited

namespace Value

/-- The name of a kind of value. -/
def kindName : Value → String
  | null => "NoneType"
  | bool _ => "bool"
  | int _ => "int"
  | float _ => "float"
  | text _ => "str"
  | date .. => "datetime.date"
  | list _ => "list"
  | dict _ => "dict"

/-- Whether a value counts as true where a condition is needed: all but nothing,
zero and the empty ones do. -/
def truthy : Value → Bool
  | null => false
  | bool b => b
  | int n => n != 0
  | float x => x != 0.0
  | text s => s != ""
  | date .. => true
  | list items => !items.isEmpty
  | dict entries => !entries.isEmpty

/-! ### Keys -/

/-- The whole number that a value equals, if any. -/
def wholeNumber? : Value → Option Int
  | bool b => some (if b then 1 else 0)
  | int n => some n
  | float x =>
    if x.isFinite then
      match Decimal.truncate x with
      | (n, true) => some n
      | (_, false) => none
    else none
  | _ => none

/-- Whether two mapping keys are the same. -/
def sameKey : Value → Value → Bool
  | null, null => true
  | text s, text t => s = t
  | date y m d, date y' m' d' => y = y' && m = m' && d = d'
  | float x, float y => x == y
  | v, w =>
    match v.wholeNumber?, w.wholeNumber? with
    | some n, some k => n = k
    | _, _ => false

instance : BEq Value := ⟨sameKey⟩

/-- Whether a value is the float that is not a number, which equals no value. -/
def isNaN : Value → Bool
  | float x => x.isNaN
  | _ => false

/-- Whether a value can be a mapping key. -/
def isKey : Value → Bool
  | list _ | dict _ => false
  | _ => true

/-- The value under a key given by its name. -/
def get? (entries : List (Value × Value)) (name : String) : Option Value :=
  entries.lookup (text name)

/-! ### Text -/

/-- Floats are positional from 0.0001 to below 10 to the 16th; written exponents
have two digits. -/
def floatNotation : Decimal.Notation := ⟨-4, 16, 2⟩

/-- An integer has more digits than may be written. -/
inductive TextError where
  | tooManyDigits
  deriving DecidableEq, Repr

/-- The text of an integer. -/
def intText (n : Int) : Except TextError String :=
  if n.natAbs < Nat.pow 10 Decimal.digitLimit then .ok (toString n) else .error .tooManyDigits

/-- The text of a date. -/
def dateText (year month day : Nat) : String :=
  Decimal.padded 4 year ++ "-" ++ Decimal.padded 2 month ++ "-" ++ Decimal.padded 2 day

mutual

/-- The form of a value inside another one. -/
def shown : Value → Except TextError String
  | null => .ok "None"
  | bool b => .ok (if b then "True" else "False")
  | int n => intText n
  | float x => .ok (floatNotation.text x)
  | text s => .ok (Text.quote s)
  | date y m d => .ok s!"datetime.date({y}, {m}, {d})"
  | list items => do return "[" ++ String.intercalate ", " (← shownItems items) ++ "]"
  | dict entries => do return "\x7b" ++ String.intercalate ", " (← shownEntries entries) ++ "\x7d"

/-- The forms of items. -/
def shownItems : List Value → Except TextError (List String)
  | [] => .ok []
  | v :: rest => do return (← shown v) :: (← shownItems rest)

/-- The forms of pairs. -/
def shownEntries : List (Value × Value) → Except TextError (List String)
  | [] => .ok []
  | (k, v) :: rest => do return ((← shown k) ++ ": " ++ (← shown v)) :: (← shownEntries rest)

end

/-- The text of a value on its own. -/
def asText : Value → Except TextError String
  | text s => .ok s
  | date y m d => .ok (dateText y m d)
  | v => v.shown

end Value

end RouteScript
