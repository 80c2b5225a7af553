/-!
The shortest decimal text of a binary64 number.

A finite number stands for all reals that round to it. Its digits are the fewest
that lie among those reals, and of two candidates with equally few digits the
nearer one, on a tie the even one (`shortest`). The search tries ever finer grids
of decimals and needs only the two neighbours of the number on each grid; it is
carried out on natural numbers.

How the digits are laid out is a `Notation`: positional while the exponent of the
leading digit lies in a given range, scientific beyond.
-/

namespace RouteScript.Decimal

/-- The magnitude of a finite binary64 number, `significand * 2 ^ exponent`. -/
structure Magnitude where
  significand : Nat
  exponent : Int
  /-- The next smaller number is only half as far away as the next larger one. -/
  narrowBelow : Bool
  deriving DecidableEq, Repr

/-- The magnitude in the bits of a finite number; the sign bit is left out. -/
def Magnitude.ofBits (bits : UInt64) : Magnitude :=
  let field := ((bits >>> 52) &&& 0x7FF).toNat
  let fraction := (bits &&& 0xFFFFFFFFFFFFF).toNat
  if field = 0 then ⟨fraction, -1074, false⟩
  else ⟨Nat.pow 2 52 + fraction, field - 1075, fraction = 0 && 1 < field⟩

/-- A number in decimal, `digits * 10 ^ exponent`. -/
structure Digits where
  digits : Nat
  exponent : Int
  deriving DecidableEq, Repr

/-- A number and the ends of the reals that round to it, over a common
denominator; `ends` tells whether the ends themselves belong to them. -/
structure Interval where
  low : Nat
  number : Nat
  high : Nat
  denominator : Nat
  ends : Bool
  deriving DecidableEq, Repr

/-- The reals that round to a magnitude. -/
def Magnitude.interval (x : Magnitude) : Interval :=
  let scale := Nat.pow 2 (x.exponent - 2).toNat
  { low := (4 * x.significand - if x.narrowBelow then 1 else 2) * scale
    number := 4 * x.significand * scale
    high := (4 * x.significand + 2) * scale
    denominator := Nat.pow 2 (2 - x.exponent).toNat
    ends := x.significand % 2 = 0 }

/-- The interval measured in units of `10 ^ g`. -/
def Interval.onGrid (i : Interval) (g : Int) : Interval :=
  let up := Nat.pow 10 (-g).toNat
  { i with
    low := i.low * up, number := i.number * up, high := i.high * up,
    denominator := i.denominator * Nat.pow 10 g.toNat }

/-- Whether the whole number `n` lies in the interval. -/
def Interval.contains (i : Interval) (n : Nat) : Bool :=
  let place := n * i.denominator
  (i.low < place && place < i.high) || (i.ends && (place = i.low || place = i.high))

/-- The whole number of an interval that is nearest to its number, among the two
neighbours of that number. -/
def Interval.nearest? (i : Interval) : Option Nat :=
  let below := i.number / i.denominator
  let twice := 2 * (i.number % i.denominator)
  match i.contains below, i.contains (below + 1) with
  | true, true =>
    some (if twice < i.denominator || (twice = i.denominator && below % 2 = 0) then below
      else below + 1)
  | true, false => some below
  | false, true => some (below + 1)
  | false, false => none

/-- The least `k` with `number < 10 ^ k`; the binary logarithm leaves few to try. -/
def Magnitude.leading (x : Magnitude) : Int :=
  let i := x.interval
  let estimate := Int.fdiv ((x.significand.log2 + x.exponent) * 30103) 100000
  let ks := [estimate - 1, estimate, estimate + 1, estimate + 2]
  (ks.find? fun k => (i.onGrid k).number < (i.onGrid k).denominator).getD (estimate + 3)

/-- Moves trailing zeros of the digits into the exponent. -/
def Digits.strip : (fuel : Nat) → Digits → Digits
  | 0, d => d
  | fuel + 1, d =>
    if d.digits % 10 = 0 then strip fuel ⟨d.digits / 10, d.exponent + 1⟩ else d

/-- All digits of a magnitude. -/
def Magnitude.exact (x : Magnitude) : Digits :=
  ⟨x.significand * Nat.pow 2 x.exponent.toNat * Nat.pow 5 (-x.exponent).toNat, min x.exponent 0⟩

/-- The fewest digits that stand for a magnitude other than zero. Seventeen always
suffice; were they not to, all digits are a right answer too. -/
def shortest (x : Magnitude) : Digits :=
  let i := x.interval
  let k := x.leading
  let grids := (List.range 17).map fun (n : Nat) => k - (n + 1)
  let found := grids.findSome? fun g => (i.onGrid g).nearest?.map fun n => Digits.mk n g
  (found.getD x.exact).strip 17

/-! ### Layout -/

/-- How digits are laid out. -/
structure Notation where
  /-- Positional notation starts at this exponent of the leading digit … -/
  positionalFrom : Int
  /-- … and ends before this one. -/
  positionalBelow : Int
  /-- The least number of digits of a written exponent. -/
  exponentWidth : Nat
  deriving DecidableEq, Repr

/-- `n` zeros. -/
def zeros (n : Nat) : String := String.ofList (List.replicate n '0')

/-- The text of a natural number, filled up with zeros in front. -/
def padded (width n : Nat) : String :=
  let text := toString n
  zeros (width - text.length) ++ text

/-- Digits with a point after the first `n`, and at least one digit behind it. -/
def pointAfter (n : Nat) (digits : String) : String :=
  let behind := String.ofList (digits.toList.drop n)
  String.ofList (digits.toList.take n) ++ "." ++ if behind = "" then "0" else behind

/-- The text of digits. -/
def Notation.layout (f : Notation) (d : Digits) : String :=
  let text := toString d.digits
  let lead := d.exponent + text.length - 1
  if f.positionalFrom ≤ lead ∧ lead < f.positionalBelow then
    if lead < 0 then "0." ++ zeros (-lead - 1).toNat ++ text
    else pointAfter (lead.toNat + 1) (text ++ zeros d.exponent.toNat)
  else
    let mantissa := if text.length = 1 then text else pointAfter 1 text
    let mark := if lead < 0 then "e-" else "e+"
    mantissa ++ mark ++ padded f.exponentWidth lead.natAbs

/-- The text of a float. -/
def Notation.text (f : Notation) (x : Float) : String :=
  if x.isNaN then "nan"
  else
    let bits := x.toBits
    let magnitude := bits &&& 0x7FFFFFFFFFFFFFFF
    let text :=
      if magnitude = 0x7FF0000000000000 then "inf"
      else if magnitude = 0 then "0.0"
      else f.layout (shortest (.ofBits bits))
    if bits = magnitude then text else "-" ++ text

/-! ### Whole numbers -/

/-- The whole number next to a finite float on the side of zero, and whether the
float is that number. -/
def truncate (x : Float) : Int × Bool :=
  let m := Magnitude.ofBits x.toBits
  let up := m.significand * Nat.pow 2 m.exponent.toNat
  let down := Nat.pow 2 (-m.exponent).toNat
  let whole : Int := (up / down : Nat)
  (if x.toBits >>> 63 = 1 then -whole else whole, up % down = 0)

end RouteScript.Decimal
