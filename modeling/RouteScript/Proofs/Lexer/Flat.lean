import RouteScript.Lexer.Readers

/-!
Scripts scanned as one stretch of bytes.

The scanner walks the bytes of a script with one index. It knows no lines: the
position of a byte is a matter of the newlines before it (`place`). A token ends
one column behind its last byte (`behind`).

* `#` passes over everything through the next newline.
* `=`, `+` and `?` are tokens of one byte.
* A quote reads to the next equal quote that is not escaped, or to the end
  (`literal`).
* Letters and digits form runs as long as possible.
* Any other byte is passed over.
-/

namespace RouteScript.Flat

/-! ### Places -/

/-- The line of byte number `i`, by the newlines before it. -/
def row (bytes : List UInt8) (i : Nat) : Nat := 1 + (bytes.take i).count 10

/-- The column of byte number `i`, by the bytes since the last newline. -/
def column (bytes : List UInt8) (i : Nat) : Nat :=
  1 + ((bytes.take i).reverse.takeWhile (· != 10)).length

/-- The position of byte number `i`. -/
def place (bytes : List UInt8) (i : Nat) : Position := ⟨row bytes i, column bytes i⟩

/-- One column behind the byte in front of number `i`. -/
def behind (bytes : List UInt8) (i : Nat) : Position :=
  ⟨row bytes (i - 1), column bytes (i - 1) + 1⟩

/-- The span of the bytes from number `i` to the one in front of number `j`. -/
def span (bytes : List UInt8) (i j : Nat) : Span := ⟨place bytes i, behind bytes j⟩

/-! ### Literals and comments -/

/-- How many bytes there are through the next newline, or to the end. -/
def lineLength : List UInt8 → Nat
  | [] => 0
  | b :: rest => if b = 10 then 1 else 1 + lineLength rest

/-- What is found in a string literal. -/
structure Literal where
  content : List UInt8 := []
  /-- The indices that unknown escapes are noted at. -/
  unknown : List Nat := []
  /-- The index of the closing quote; the number of bytes if there is none. -/
  stop : Nat

/-- A string literal up to its closing quote, from byte number `i` on. A byte behind
a backslash is translated, or kept and noted; a backslash that is the last byte of
all is noted and dropped. -/
def literal (quote : UInt8) (i : Nat) : List UInt8 → Literal
  | [] => { stop := i }
  | b :: rest =>
    if b = quote then { stop := i }
    else if b = 92 then
      match rest with
      | [] => { unknown := [i], stop := i + 1 }
      | e :: rest =>
        let l := literal quote (i + 2) rest
        match escape? e with
        | some x => { l with content := x :: l.content }
        | none => { l with content := e :: l.content, unknown := (i + 1) :: l.unknown }
    else
      let l := literal quote (i + 1) rest
      { l with content := b :: l.content }

/-! ### Steps -/

/-- What one step finds, and the index behind it. -/
structure Step where
  token : Option Token := none
  found : List Diagnostic := []
  next : Nat

/-- A token of one byte. -/
def symbol (bytes : List UInt8) (i : Nat) (kind : TokenKind) (text : String) : Step :=
  { token := some ⟨kind, span bytes i (i + 1), text⟩, next := i + 1 }

/-- A string literal; `rest` follows its opening quote. Content that is no UTF-8
counts as empty. -/
def string (bytes : List UInt8) (i : Nat) (quote : UInt8) (rest : List UInt8) : Step :=
  let l := literal quote (i + 1) rest
  let text := Lexer.contentText l.content
  let next := if l.stop < bytes.length then l.stop + 1 else l.stop
  { token := some ⟨.string, span bytes i next, text⟩
    found := l.unknown.map (fun j => .unknownEscape (place bytes j)) ++
      (if l.stop < bytes.length then [] else [.unclosedString (place bytes i)]) ++
      (if text = "" then [.emptyString (place bytes i)] else [])
    next }

/-- A run of letters. -/
def word (bytes : List UInt8) (i : Nat) (rest : List UInt8) : Step :=
  let run := rest.takeWhile isLetter
  { token := some ⟨Token.wordKind (asciiText run), span bytes i (i + run.length), asciiText run⟩
    next := i + run.length }

/-- A run of digits. -/
def number (bytes : List UInt8) (i : Nat) (rest : List UInt8) : Step :=
  let run := rest.takeWhile isDigit
  { token := some ⟨.number, span bytes i (i + run.length), asciiText run⟩
    next := i + run.length }

/-- One step at byte number `i`. -/
def step (bytes : List UInt8) (i : Nat) : Step :=
  match bytes.drop i with
  | [] => { next := i + 1 }
  | b :: rest =>
    if b = 35 then { next := i + lineLength (b :: rest) }
    else if b = 61 then symbol bytes i .equals "="
    else if b = 43 then symbol bytes i .plus "+"
    else if b = 63 then symbol bytes i .question "?"
    else if b = 34 ∨ b = 39 then string bytes i b rest
    else if isLetter b then word bytes i (b :: rest)
    else if isDigit b then number bytes i (b :: rest)
    else { next := i + 1 }

section Literal

variable {quote b e x : UInt8} {i : Nat} {rest : List UInt8}

theorem literal_quote : literal quote i (quote :: rest) = { stop := i } := by
  rw [literal.eq_def]
  simp

theorem literal_last (other : 92 ≠ quote) :
    literal quote i [92] = { unknown := [i], stop := i + 1 } := by
  rw [literal.eq_def]
  simp [other]

theorem literal_known (other : 92 ≠ quote) (known : escape? e = some x) :
    literal quote i (92 :: e :: rest) =
      { literal quote (i + 2) rest with content := x :: (literal quote (i + 2) rest).content } := by
  rw [literal.eq_def]
  simp [other, known]

theorem literal_unknown (other : 92 ≠ quote) (unknown : escape? e = none) :
    literal quote i (92 :: e :: rest) =
      { literal quote (i + 2) rest with
        content := e :: (literal quote (i + 2) rest).content
        unknown := (i + 1) :: (literal quote (i + 2) rest).unknown } := by
  rw [literal.eq_def]
  simp [other, unknown]

theorem literal_plain (other : b ≠ quote) (plain : b ≠ 92) :
    literal quote i (b :: rest) =
      { literal quote (i + 1) rest with content := b :: (literal quote (i + 1) rest).content } := by
  rw [literal.eq_def]
  simp [other, plain]

end Literal

theorem le_stop (quote : UInt8) (i : Nat) (rest : List UInt8) : i ≤ (literal quote i rest).stop := by
  fun_induction literal quote i rest with
  | case1 => exact Nat.le_refl _
  | case2 => exact Nat.le_refl _
  | case3 => exact Nat.le_succ _
  | case4 i e rest l x _ _ ih => exact Nat.le_trans (Nat.le_add_right i 2) ih
  | case5 i e rest l _ _ ih => exact Nat.le_trans (Nat.le_add_right i 2) ih
  | case6 i b rest _ _ l ih => exact Nat.le_trans (Nat.le_succ i) ih

theorem lt_next (bytes : List UInt8) (i : Nat) : i < (step bytes i).next := by
  unfold step
  split
  · exact Nat.lt_succ_self i
  · next b rest _ =>
    have run : ∀ accept : UInt8 → Bool, accept b = true →
        i < i + ((b :: rest).takeWhile accept).length := by
      intro accept ok
      simp [ok]
    split
    · have : 0 < lineLength (b :: rest) := by
        unfold lineLength
        split <;> omega
      simp only
      omega
    · repeat' split
      · exact Nat.lt_succ_self i
      · exact Nat.lt_succ_self i
      · exact Nat.lt_succ_self i
      · have stop := le_stop b (i + 1) rest
        unfold string
        simp only
        split <;> omega
      · exact run isLetter ‹_›
      · exact run isDigit ‹_›
      · exact Nat.lt_succ_self i

/-! ### Scripts -/

/-- The tokens from byte number `i` on, and what is noted about them. -/
def scanFrom (bytes : List UInt8) (i : Nat) : List Token × List Diagnostic :=
  if _ : i < bytes.length then
    let found := step bytes i
    let later := scanFrom bytes found.next
    (found.token.toList ++ later.1, found.found ++ later.2)
  else ([], [])
termination_by bytes.length - i
decreasing_by
  have := lt_next bytes i
  omega

/-- The tokens of a script, and what is noted about it. A script without tokens is an
error of its own. -/
def scan (bytes : List UInt8) : List Token × List Diagnostic :=
  let (tokens, found) := scanFrom bytes 0
  (tokens, found ++ if tokens.isEmpty then [.emptyFile] else [])

end RouteScript.Flat
