/-!
Reading UTF-8, with an account of what is wrong with bytes that are none.

A sequence of bytes is read character by character. The first byte of a character
fixes how many follow and the range of the second (`lead?`); all others lie in
`80`–`BF`. Where no character can be read, the error names the bytes that were
still good as the start of one (`Utf8Error`).
-/

namespace RouteScript.Text

/-- What is wrong with bytes that are no UTF-8. -/
inductive Utf8Fault where
  /-- No character starts with this byte. -/
  | start
  /-- A character breaks off at a byte that does not continue it. -/
  | continuation
  /-- The bytes end within a character. -/
  | ending
  deriving DecidableEq, Repr

/-- The first error in bytes that are no UTF-8: the offending byte, or the start of
a character of `length` bytes, at `position`. -/
structure Utf8Error where
  first : UInt8
  position : Nat
  length : Nat
  fault : Utf8Fault
  deriving DecidableEq, Repr

/-- For the first byte of a character: how many bytes follow it, and the least and
the greatest second byte. -/
def lead? (b : UInt8) : Option (Nat × UInt8 × UInt8) :=
  if b < 0x80 then some (0, 0, 0)
  else if b < 0xC2 then none
  else if b < 0xE0 then some (1, 0x80, 0xBF)
  else if b = 0xE0 then some (2, 0xA0, 0xBF)
  else if b = 0xED then some (2, 0x80, 0x9F)
  else if b < 0xF0 then some (2, 0x80, 0xBF)
  else if b = 0xF0 then some (3, 0x90, 0xBF)
  else if b < 0xF4 then some (3, 0x80, 0xBF)
  else if b = 0xF4 then some (3, 0x80, 0x8F)
  else none

/-- Passes `owed` bytes that continue a character of which `taken` bytes were
read. The result is the rest, or how many bytes were good and what is wrong. -/
def continueChar (taken : Nat) (low high : UInt8) :
    (owed : Nat) → List UInt8 → Except (Nat × Utf8Fault) (List UInt8)
  | 0, rest => .ok rest
  | _ + 1, [] => .error (taken, .ending)
  | owed + 1, b :: rest =>
    if low ≤ b ∧ b ≤ high then continueChar (taken + 1) 0x80 0xBF owed rest
    else .error (taken, .continuation)

/-- The first error, if there is one; `position` counts the bytes before. -/
def firstError? (position : Nat) : (fuel : Nat) → List UInt8 → Option Utf8Error
  | _, [] => none
  | 0, _ => none
  | fuel + 1, b :: rest =>
    match lead? b with
    | none => some ⟨b, position, 1, .start⟩
    | some (owed, low, high) =>
      match continueChar 1 low high owed rest with
      | .error (length, fault) => some ⟨b, position, length, fault⟩
      | .ok behind => firstError? (position + owed + 1) fuel behind

/-- The text of bytes, or the first error in them. -/
def decodeUtf8 (bytes : List UInt8) : Except Utf8Error String :=
  match String.fromUTF8? ⟨bytes.toArray⟩ with
  | some text => .ok text
  | none => .error ((firstError? 0 bytes.length bytes).getD ⟨0, 0, 0, .ending⟩)

end RouteScript.Text
