import RouteScript.Text.Numeric

/-!
Numbers as people write them.

Blanks around a numeral are ignored, the decimal digits of every script count as
digits, and an underscore may stand between two digits. An integer has an
optional sign and digits, no more than `digitLimit` of them. A float also has a
fraction, an exponent, or one of the names `inf`, `infinity` and `nan` in any
case.
-/

namespace RouteScript.Decimal

/-- The most digits that an integer may have where it is read or written. -/
def digitLimit : Nat := 4300

/-- Why a text is no integer. -/
inductive IntegerError where
  | notNumeral
  | tooManyDigits (count : Nat)
  deriving DecidableEq, Repr

/-- An ASCII stand-in for a character of a numeral; a character that has none
becomes one that no numeral contains. -/
def plainChar (c : Char) : Char :=
  if c.toNat < 128 then c
  else match Text.digitValue? c with
    | some d => Nat.digitChar d
    | none => if Text.isBlank c then ' ' else '?'

/-- Without the blanks on both sides. -/
def trim (cs : List Char) : List Char :=
  ((cs.dropWhile Text.isBlank).reverse.dropWhile Text.isBlank).reverse

/-- Splits off a sign; true means negative. -/
def takeSign : List Char → Bool × List Char
  | '-' :: rest => (true, rest)
  | '+' :: rest => (false, rest)
  | cs => (false, cs)

/-- The number that a list of digits stands for in a base; each digit is a
character of `0`–`9`, `a`–`f` or `A`–`F`. -/
def ofDigits (base : Nat) (cs : List Char) : Nat :=
  cs.foldl (fun n c =>
    n * base +
      if c.isDigit then c.toNat - 48 else if 'a' ≤ c then c.toNat - 87 else c.toNat - 55) 0

/-- Drops underscores, each of which has to stand between two digits; `before` is
the character in front. -/
def dropUnderscores (before : Char) : List Char → Option (List Char)
  | [] => some []
  | c :: rest =>
    if c = '_' then
      if before.isDigit && rest.head?.any Char.isDigit then dropUnderscores c rest else none
    else (dropUnderscores c rest).map (c :: ·)

/-- Reads an integer. -/
def readInteger (s : String) : Except IntegerError Int :=
  let (negative, body) := takeSign (trim (s.toList.map plainChar))
  let run := body.takeWhile fun c => c.isDigit || c = '_'
  match dropUnderscores ' ' run with
  | none | some [] => .error .notNumeral
  | some digits =>
    if digitLimit < digits.length then .error (.tooManyDigits digits.length)
    else if run.length < body.length then .error .notNumeral
    else
      let n : Int := ofDigits 10 digits
      .ok (if negative then -n else n)

/-- The float nearest to `digits * 10 ^ exponent`. -/
def toFloat (digits : List Char) (exponent : Int) : Float :=
  let significant := digits.dropWhile (· = '0')
  let size := exponent + significant.length
  if significant.isEmpty ∨ size < -330 then 0.0
  else if 310 < size then 1.0 / 0.0
  else Float.ofScientific (ofDigits 10 significant) (exponent < 0) exponent.natAbs

/-- An exponent, if `cs` is nothing else; no text stands for zero. -/
def readExponent? : List Char → Option Int
  | [] => some 0
  | c :: rest =>
    if c = 'e' ∨ c = 'E' then
      let (negative, digits) := takeSign rest
      if digits.isEmpty || digits.any (! ·.isDigit) then none
      else
        let n : Int := ofDigits 10 digits
        some (if negative then -n else n)
    else none

/-- A float without sign and underscores. -/
def readMagnitude? (cs : List Char) : Option Float :=
  let name := String.ofList (cs.map Char.toLower)
  if name = "inf" ∨ name = "infinity" then some (1.0 / 0.0)
  else if name = "nan" then some (0.0 / 0.0)
  else
    let (whole, rest) := cs.span Char.isDigit
    let (fraction, rest) := match rest with
      | '.' :: behind => behind.span Char.isDigit
      | _ => ([], rest)
    if whole.isEmpty && fraction.isEmpty then none
    else (readExponent? rest).map fun e => toFloat (whole ++ fraction) (e - fraction.length)

/-- Reads a float. -/
def readFloat? (s : String) : Option Float := do
  let body ← dropUnderscores ' ' (trim (s.toList.map plainChar))
  let (negative, magnitude) := takeSign body
  let x ← readMagnitude? magnitude
  return if negative then -x else x

end RouteScript.Decimal
