import RouteScript.Lexer.Basic
import RouteScript.Token

/-!
The readers of single tokens.

Each reader starts at the look-ahead and leaves the look-ahead on the first byte
that does not belong to its token. A string literal ends at the quote it began
with; a backslash in it escapes the next byte of the same chunk. The content has
to be UTF-8, else it counts as empty.
-/

namespace RouteScript

/-! ### Byte classes -/

/-- The letters `a`–`z` and `A`–`Z`. -/
def isLetter (b : UInt8) : Bool := (65 ≤ b && b ≤ 90) || (97 ≤ b && b ≤ 122)

/-- The digits `0`–`9`. -/
def isDigit (b : UInt8) : Bool := 48 ≤ b && b ≤ 57

/-- A blank or a tab. -/
def isSpace (b : UInt8) : Bool := b = 32 || b = 9

/-- The byte that a backslash makes of the next one: `\n`, `\t`, `\"` and `\\`. -/
def escape? (b : UInt8) : Option UInt8 :=
  if b = 110 then some 10
  else if b = 116 then some 9
  else if b = 34 then some 34
  else if b = 92 then some 92
  else none

/-- The text of bytes below 128. -/
def asciiText (bytes : List UInt8) : String :=
  String.ofList (bytes.map fun b => Char.ofNat b.toNat)

namespace Lexer

/-! ### Runs of bytes -/

/-- Takes bytes while `accept` holds; `taken` holds those taken before, last
first. -/
def takeRun (accept : UInt8 → Bool) (s : Lexer) (taken : List UInt8) : List UInt8 × Lexer :=
  if _ : s.running = true then
    match s.look with
    | some b => if accept b then takeRun accept s.advance (b :: taken) else (taken.reverse, s)
    | none => (taken.reverse, s)
  else (taken.reverse, s)
termination_by s.weight
decreasing_by exact weight_advance_lt ‹_›

/-- Passes over blanks and tabs. -/
def skipSpace (s : Lexer) : Lexer := (takeRun isSpace s []).2

/-! ### Tokens -/

/-- A token of the one byte under consideration. -/
def takeSymbol (kind : TokenKind) (text : String) (s : Lexer) : Token × Lexer :=
  (⟨kind, ⟨s.pos, ⟨s.lineNumber, s.cursor + 1⟩⟩, text⟩, s.advance)

/-- A token of the byte under consideration, whatever it is; bytes from 128 on are
no text on their own and are refused. -/
def readChar (kind : TokenKind) (s : Lexer) : Except UInt8 (Token × Lexer) :=
  match s.look with
  | none => .ok (takeSymbol kind "" s)
  | some b => if b < 128 then .ok (takeSymbol kind (asciiText [b]) s) else .error b

/-- The content of a string literal up to its closing quote, with `content`, last
byte first, read before. -/
def readContent (quote : Option UInt8) (s : Lexer) (content : List UInt8) :
    List UInt8 × Lexer :=
  if _ : s.running = true then
    if s.look = quote then (content.reverse, s)
    else if s.look = some 92 then
      if s.ahead.isEmpty then
        readContent quote (s.warn (.unknownEscape s.pos)).advance content
      else
        let escaped := s.advance
        match escaped.look.bind escape? with
        | some b => readContent quote escaped.advance (b :: content)
        | none =>
          readContent quote (escaped.warn (.unknownEscape escaped.pos)).advance
            (escaped.look.toList ++ content)
    else readContent quote s.advance (s.look.toList ++ content)
  else (content.reverse, s)
termination_by s.weight
decreasing_by
  · have step := weight_advance_lt ((running_warn s (.unknownEscape s.pos)).trans ‹_›)
    rwa [weight_warn] at step
  · exact Nat.lt_of_le_of_lt (weight_advance_le _) (weight_advance_lt ‹_›)
  · refine Nat.lt_of_le_of_lt (weight_advance_le _) ?_
    simpa using weight_advance_lt ‹s.running = true›
  · exact weight_advance_lt ‹_›

/-- The text of a string literal's content. -/
def contentText (bytes : List UInt8) : String :=
  (String.fromUTF8? ⟨bytes.toArray⟩).getD ""

/-- A string literal; the look-ahead is its opening quote. -/
def readString (s : Lexer) : Token × Lexer :=
  let start := s.pos
  let (bytes, s') := readContent s.look s.advance []
  let closed :=
    if s'.more && s'.look = s.look then s'.advance else s'.fail (.unclosedString start)
  let text := contentText bytes
  (⟨.string, ⟨start, closed.pos⟩, text⟩,
    if text = "" then closed.warn (.emptyString start) else closed)

/-- A run of letters. -/
def readWord (s : Lexer) : Token × Lexer :=
  let (bytes, s') := takeRun isLetter s []
  let word := asciiText bytes
  (⟨Token.wordKind word, ⟨s.pos, s'.pos⟩, word⟩, s')

/-- A run of digits. -/
def readNumber (s : Lexer) : Token × Lexer :=
  let (bytes, s') := takeRun isDigit s []
  (⟨.number, ⟨s.pos, s'.pos⟩, asciiText bytes⟩, s')

/-! ### One byte at a time -/

section Equations

variable {accept : UInt8 → Bool} {s : Lexer} {taken content : List UInt8} {quote : Option UInt8}
  {b x : UInt8}

theorem takeRun_accepted (run : s.running = true) (look : s.look = some b) (ok : accept b = true) :
    takeRun accept s taken = takeRun accept s.advance (b :: taken) := by
  rw [takeRun]
  simp only [run, look, ok, dif_pos, if_true]

theorem takeRun_refused (run : s.running = true) (look : s.look = some b) (other : ¬accept b = true) :
    takeRun accept s taken = (taken.reverse, s) := by
  rw [takeRun]
  simp only [run, look, dif_pos, if_neg other]

theorem takeRun_of_none (look : s.look = none) : takeRun accept s taken = (taken.reverse, s) := by
  rw [takeRun]
  simp only [look, dite_eq_ite, ite_self]

theorem takeRun_of_not_running (halt : ¬s.running = true) :
    takeRun accept s taken = (taken.reverse, s) := by
  rw [takeRun, dif_neg halt]

theorem readContent_quote (run : s.running = true) (look : s.look = quote) :
    readContent quote s content = (content.reverse, s) := by
  rw [readContent, dif_pos run, if_pos look]

theorem readContent_last (run : s.running = true) (other : ¬s.look = quote)
    (look : s.look = some 92) (last : s.ahead.isEmpty = true) :
    readContent quote s content =
      readContent quote (s.warn (.unknownEscape s.pos)).advance content := by
  rw [readContent, dif_pos run, if_neg other, if_pos look, if_pos last]

theorem readContent_known (run : s.running = true) (other : ¬s.look = quote)
    (look : s.look = some 92) (more : ¬s.ahead.isEmpty = true)
    (known : s.advance.look.bind escape? = some x) :
    readContent quote s content = readContent quote s.advance.advance (x :: content) := by
  rw [readContent, dif_pos run, if_neg other, if_pos look, if_neg more]
  simp only [known]

theorem readContent_unknown (run : s.running = true) (other : ¬s.look = quote)
    (look : s.look = some 92) (more : ¬s.ahead.isEmpty = true)
    (unknown : s.advance.look.bind escape? = none) :
    readContent quote s content =
      readContent quote (s.advance.warn (.unknownEscape s.advance.pos)).advance
        (s.advance.look.toList ++ content) := by
  rw [readContent, dif_pos run, if_neg other, if_pos look, if_neg more]
  simp only [unknown]

theorem readContent_plain (run : s.running = true) (other : ¬s.look = quote)
    (plain : ¬s.look = some 92) :
    readContent quote s content = readContent quote s.advance (s.look.toList ++ content) := by
  rw [readContent, dif_pos run, if_neg other, if_neg plain]

theorem readContent_of_not_running (halt : ¬s.running = true) :
    readContent quote s content = (content.reverse, s) := by
  rw [readContent, dif_neg halt]

end Equations

/-! ### How many steps remain -/

theorem weight_takeRun_le (accept : UInt8 → Bool) (s : Lexer) (taken : List UInt8) :
    (takeRun accept s taken).2.weight ≤ s.weight := by
  fun_induction takeRun accept s taken with
  | case1 s taken run b _ _ ih => exact Nat.le_trans ih (weight_advance_le s)
  | case2 | case3 | case4 => exact Nat.le_refl _

theorem weight_takeRun_lt {accept : UInt8 → Bool} {s : Lexer} {b : UInt8}
    (run : s.running = true) (look : s.look = some b) (ok : accept b = true)
    (taken : List UInt8) : (takeRun accept s taken).2.weight < s.weight := by
  rw [takeRun_accepted run look ok]
  exact Nat.lt_of_le_of_lt (weight_takeRun_le ..) (weight_advance_lt run)

theorem weight_readContent_le (quote : Option UInt8) (s : Lexer) (content : List UInt8) :
    (readContent quote s content).2.weight ≤ s.weight := by
  fun_induction readContent quote s content with
  | case1 | case6 => exact Nat.le_refl _
  | case2 s content run _ _ _ ih =>
    exact Nat.le_trans ih (by simpa using weight_advance_le (s.warn (.unknownEscape s.pos)))
  | case3 s content run _ _ _ _ b _ ih =>
    exact Nat.le_trans ih (Nat.le_trans (weight_advance_le _) (weight_advance_le s))
  | case4 s content run _ _ _ escaped _ ih =>
    refine Nat.le_trans ih (Nat.le_trans (weight_advance_le _) ?_)
    simpa using weight_advance_le s
  | case5 s content run _ _ ih => exact Nat.le_trans ih (weight_advance_le s)

theorem weight_readString_lt {s : Lexer} (run : s.running = true) :
    s.readString.2.weight < s.weight := by
  have inner := weight_readContent_le s.look s.advance []
  have step := weight_advance_lt run
  have last := weight_advance_le (readContent s.look s.advance []).2
  simp only [readString]
  split <;> split <;> simp <;> omega

end Lexer

end RouteScript
