import RouteScript.Document.Token
import RouteScript.Settings.Conversion

/-!
What plain scalars stand for.

A plain scalar is a truth value, a float, an integer, nothing, a date or a text,
whichever form fits first. Numbers may be grouped by underscores, have a base-60
form with colons, and integers binary, octal and hexadecimal ones; a float needs a
point, and its exponent a sign. A form can fit and still name no number or no day,
or a float whose places are worth more than any float (`ScalarFault`).
-/

namespace RouteScript.Document

/-- A scalar has the form of a number or of a date, but is none. -/
inductive ScalarFault where
  | number (e : ConversionError)
  | year (n : Nat)
  | month
  | day
  deriving DecidableEq, Repr

/-- The kind of failure. -/
def ScalarFault.kind : ScalarFault → FaultKind
  | number e => e.kind
  | year _ | month | day => .value

/-- The wording of a fault. -/
def ScalarFault.message : ScalarFault → String
  | number e => e.message
  | year n => s!"year {n} is out of range"
  | month => "month must be in 1..12"
  | day => "day is out of range for month"

/-! ### Forms -/

/-- A digit or an underscore. -/
def isGrouped (c : Char) : Bool := c.isDigit || c = '_'

/-- Digits with underscores, the first of which is a digit. -/
def isDigits (cs : List Char) : Bool := cs.head?.any Char.isDigit && cs.all isGrouped

/-- Without a sign in front. -/
def unsigned (cs : List Char) : List Char := (Decimal.takeSign cs).2

/-- The parts between colons. -/
def colonParts (cs : List Char) : List (List Char) :=
  ((String.ofList cs).splitOn ":").map String.toList

/-- A part of a base-60 number behind the first: a number below 60. -/
def isSixtieth : List Char → Bool
  | [a] => a.isDigit
  | [a, b] => '0' ≤ a && a ≤ '5' && b.isDigit
  | _ => false

/-- The parts of a base-60 number, if `cs` is one: digits, then numbers below 60
behind colons. -/
def sixtieths? (cs : List Char) : Option (List (List Char)) :=
  match colonParts cs with
  | first :: second :: more =>
    if isDigits first && (second :: more).all isSixtieth then some (first :: second :: more)
    else none
  | _ => none

/-- An exponent with its sign, or no exponent. -/
def isSignedExponent : List Char → Bool
  | [] => true
  | [_] | [_, _] => false
  | mark :: sign :: digits =>
    (mark = 'e' || mark = 'E') && (sign = '+' || sign = '-') && digits.all Char.isDigit

/-- A float with digits in front of its point. -/
def isPointed (cs : List Char) : Bool :=
  let whole := cs.takeWhile isGrouped
  match cs.drop whole.length with
  | '.' :: behind => isDigits whole && isSignedExponent (behind.dropWhile isGrouped)
  | _ => false

/-- A float that starts with its point. -/
def isFraction : List Char → Bool
  | '.' :: behind =>
    isDigits (behind.takeWhile isGrouped) && isSignedExponent (behind.dropWhile isGrouped)
  | _ => false

/-- A base-60 number with a point. -/
def isSixtiethFloat (cs : List Char) : Bool :=
  let whole := cs.takeWhile (· != '.')
  match cs.drop whole.length with
  | '.' :: behind => (sixtieths? whole).isSome && behind.all isGrouped
  | _ => false

/-- The names of infinity and of no number. -/
def isFloatName (cs : List Char) : Bool :=
  let name := String.ofList cs
  [".nan", ".NaN", ".NAN"].contains name ||
    [".inf", ".Inf", ".INF"].contains (String.ofList (unsigned cs))

/-- The forms of floats. -/
def isFloat (cs : List Char) : Bool :=
  isPointed (unsigned cs) || isFraction cs || isSixtiethFloat (unsigned cs) || isFloatName cs

/-- The forms of integers without their sign. -/
def isUnsignedInt (cs : List Char) : Bool :=
  match cs with
  | '0' :: 'b' :: digits => !digits.isEmpty && digits.all fun c => c = '0' || c = '1' || c = '_'
  | '0' :: 'x' :: digits =>
    !digits.isEmpty && digits.all fun c => (Scanner.hexValue? c).isSome || c = '_'
  | ['0'] => true
  | '0' :: digits => digits.all fun c => ('0' ≤ c && c ≤ '7') || c = '_'
  | _ => isDigits cs || (sixtieths? cs).isSome

/-- A year, a month and a day of fixed widths. -/
def date? : List Char → Option (Nat × Nat × Nat)
  | [a, b, c, d, '-', e, f, '-', g, h] =>
    if [a, b, c, d, e, f, g, h].all Char.isDigit then
      let number := Decimal.ofDigits 10
      some (number [a, b, c, d], number [e, f], number [g, h])
    else none
  | _ => none

/-! ### Values -/

/-- An integer from digits in a base; in base ten their number is limited. -/
def readDigits (base : Nat) (digits : List Char) : Except ScalarFault Int :=
  if digits.isEmpty then .error (.number (.notInteger base ""))
  else if base = 10 ∧ Decimal.digitLimit < digits.length then
    .error (.number (.tooManyDigits digits.length))
  else .ok (Decimal.ofDigits base digits)

/-- The integer of a form without its sign. -/
def unsignedInt (cs : List Char) : Except ScalarFault Int :=
  let cs := cs.filter (· != '_')
  match cs with
  | '0' :: 'b' :: digits => readDigits 2 digits
  | '0' :: 'x' :: digits => readDigits 16 digits
  | '0' :: _ => readDigits 8 cs
  | _ => (colonParts cs).foldlM (fun n part => do return n * 60 + (← readDigits 10 part)) 0

/-- The float of a form without colons. -/
def simpleFloat (cs : List Char) : Float := (Decimal.readFloat? (String.ofList cs)).getD 0.0

/-- The float of a base-60 form, added up from its last part on. What a place is
worth has to be a float, even where the part is zero. -/
def sixtiethFloat (parts : List (List Char)) : Except ConversionError Float := do
  let (sum, _) ← parts.reverse.foldlM (fun ((sum, worth) : Float × Int) part => do
    return (sum + simpleFloat part * (← Value.floatOfInt worth), worth * 60)) (0.0, 1)
  return sum

/-- The float of a form without its sign. -/
def unsignedFloat (cs : List Char) : Except ScalarFault Float :=
  let text := String.ofList ((cs.filter (· != '_')).map Char.toLower)
  if text = ".inf" then .ok (1.0 / 0.0)
  else if text = ".nan" then .ok (0.0 / 0.0)
  else match colonParts text.toList with
    | [] | [_] => .ok (simpleFloat text.toList)
    | parts => (sixtiethFloat parts).mapError .number

/-- The number of days of a month. -/
def monthDays (year month : Nat) : Nat :=
  if month = 2 then
    if year % 4 = 0 ∧ (year % 100 ≠ 0 ∨ year % 400 = 0) then 29 else 28
  else if [4, 6, 9, 11].contains month then 30 else 31

/-- The day that a form names. -/
def dayOf (year month day : Nat) : Except ScalarFault Value :=
  if year = 0 then .error (.year year)
  else if month = 0 ∨ 12 < month then .error .month
  else if day = 0 ∨ monthDays year month < day then .error .day
  else .ok (.date year month day)

/-- The spellings of truth values. -/
def truthNames : List (String × Bool) :=
  [("yes", true), ("Yes", true), ("YES", true), ("no", false), ("No", false), ("NO", false),
   ("true", true), ("True", true), ("TRUE", true), ("false", false), ("False", false),
   ("FALSE", false), ("on", true), ("On", true), ("ON", true), ("off", false), ("Off", false),
   ("OFF", false)]

/-- The spellings of nothing. -/
def nullNames : List String := ["", "~", "null", "Null", "NULL"]

/-- The value of a plain scalar. -/
def plainValue (text : String) : Except ScalarFault Value :=
  let cs := text.toList
  let negative := (Decimal.takeSign cs).1
  match truthNames.lookup text with
  | some b => .ok (.bool b)
  | none =>
    if isFloat cs then
      (unsignedFloat (unsigned cs)).map fun x => .float (if negative then -x else x)
    else if isUnsignedInt (unsigned cs) then
      (unsignedInt (unsigned cs)).map fun n => .int (if negative then -n else n)
    else if nullNames.contains text then .ok .null
    else match date? cs with
      | some (year, month, day) => dayOf year month day
      | none => .ok (.text text)

end RouteScript.Document
