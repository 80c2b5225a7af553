import RouteScript.Lexer.Readers

/-!
The tokens of a whole script.

Between tokens, blanks, newlines and any other byte that starts no token are
passed over, and a `#` passes over the rest of its chunk. A script without tokens
is an error of its own.
-/

namespace RouteScript.Lexer

/-- One step at the look-ahead: the token that starts there, or none if the
look-ahead, or the rest of its chunk, is passed over. -/
def readToken? (s : Lexer) : Option Token × Lexer :=
  match s.look with
  | none => (none, s.advance)
  | some b =>
    if b = 35 then (none, s.skipLine)
    else if b = 61 then s.takeSymbol .equals "=" |>.map some id
    else if b = 43 then s.takeSymbol .plus "+" |>.map some id
    else if b = 63 then s.takeSymbol .question "?" |>.map some id
    else if b = 34 ∨ b = 39 then s.readString.map some id
    else if isLetter b then s.readWord.map some id
    else if isDigit b then s.readNumber.map some id
    else (none, s.advance)

theorem weight_readToken?_lt {s : Lexer} (run : s.running = true) :
    s.readToken?.2.weight < s.weight := by
  have step := weight_advance_lt run
  cases look : s.look with
  | none => simpa [readToken?, look] using step
  | some b =>
    have word : isLetter b = true → s.readWord.2.weight < s.weight :=
      fun ok => weight_takeRun_lt run look ok []
    have number : isDigit b = true → s.readNumber.2.weight < s.weight :=
      fun ok => weight_takeRun_lt run look ok []
    simp only [readToken?, look]
    split
    · exact weight_skipLine_lt run
    · split
      · exact step
      · split
        · exact step
        · split
          · exact step
          · split
            · exact weight_readString_lt run
            · split
              · exact word ‹_›
              · split
                · exact number ‹_›
                · exact step

/-- The tokens of the rest of the input; `tokens` holds those read before, last
first. -/
def readTokens (s : Lexer) (tokens : List Token) : List Token × Lexer :=
  if _ : s.skipSpace.running = true then
    match _ : s.skipSpace.readToken? with
    | (token, t) => readTokens t (token.toList ++ tokens)
  else (tokens.reverse, s.skipSpace)
termination_by s.weight
decreasing_by
  have step := weight_readToken?_lt ‹s.skipSpace.running = true›
  rw [‹s.skipSpace.readToken? = _›] at step
  exact Nat.lt_of_lt_of_le step (weight_takeRun_le isSpace s [])

theorem readTokens_of_running {s : Lexer} (run : s.skipSpace.running = true) (tokens : List Token) :
    s.readTokens tokens =
      s.skipSpace.readToken?.2.readTokens (s.skipSpace.readToken?.1.toList ++ tokens) := by
  rw [readTokens, dif_pos run]

theorem readTokens_of_not_running {s : Lexer} (halt : ¬s.skipSpace.running = true)
    (tokens : List Token) : s.readTokens tokens = (tokens.reverse, s.skipSpace) := by
  rw [readTokens, dif_neg halt]

/-- All tokens of the input, in order. -/
def tokenize (s : Lexer) : List Token × Lexer :=
  let (tokens, t) := s.readTokens []
  (tokens, if tokens.isEmpty then t.fail .emptyFile else t)

end RouteScript.Lexer
