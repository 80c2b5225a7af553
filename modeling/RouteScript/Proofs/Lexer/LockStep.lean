import RouteScript.Proofs.Lexer.Moves

/-!
Two lexers in step.

Two lexers may differ in their chunks, their places and their notes and still do the same. That is
so while they look at the same byte and move on together, and if a backslash that ends the chunk of
one ends the chunk of the other (`LockStep`). Then all readers take the same from both, and the
tokens that they find are the same, up to their places as far as these are told apart
(`LockStep.tokenize`).
-/

namespace RouteScript

variable {α : Type}

/-- A token with its places as they are seen. -/
def Token.seen (view : Position → α) (t : Token) : TokenKind × String × α × α :=
  (t.kind, t.text, view t.loc.start, view t.loc.stop)

/-- Notes of a lexer that differ in their places at most, which look the same. -/
inductive Diagnostic.Matches (view : Position → α) : Diagnostic → Diagnostic → Prop where
  | emptyFile : Matches view .emptyFile .emptyFile
  | unclosedString {p q : Position} :
      view q = view p → Matches view (.unclosedString p) (.unclosedString q)
  | unknownEscape {p q : Position} :
      view q = view p → Matches view (.unknownEscape p) (.unknownEscape q)
  | emptyString {p q : Position} : view q = view p → Matches view (.emptyString p) (.emptyString q)

namespace Lexer

/-- Lexers that are related by `R` cannot be told apart by what they look at, and stay related
when both move or note the same. -/
structure LockStep (view : Position → α) (R : Lexer → Lexer → Prop) : Prop where
  more {s t : Lexer} : R s t → t.more = s.more
  interrupted {s t : Lexer} : R s t → t.interrupted = s.interrupted
  look {s t : Lexer} : R s t → t.look = s.look
  place {s t : Lexer} : R s t → view t.pos = view s.pos
  right {s t : Lexer} : R s t → view t.pos.right = view s.pos.right
  escape {s t : Lexer} : R s t → s.running = true → s.look = some 92 →
    t.ahead.isEmpty = s.ahead.isEmpty
  advance {s t : Lexer} : R s t → R s.advance t.advance
  skipLine {s t : Lexer} : R s t → s.look = some 35 → R s.skipLine t.skipLine
  warn {s t : Lexer} {d e : Diagnostic} : R s t → d.Matches view e → R (s.warn d) (t.warn e)
  fail {s t : Lexer} {d e : Diagnostic} : R s t → d.Matches view e → R (s.fail d) (t.fail e)

namespace LockStep

variable {view : Position → α} {R : Lexer → Lexer → Prop} {s t : Lexer}

theorem running (step : LockStep view R) (h : R s t) : t.running = s.running := by
  rw [Lexer.running, Lexer.running, step.more h, step.interrupted h]

/-! ### Readers -/

theorem takeRun (step : LockStep view R) (h : R s t) (accept : UInt8 → Bool) (taken : List UInt8) :
    (takeRun accept t taken).1 = (takeRun accept s taken).1 ∧
      R (takeRun accept s taken).2 (takeRun accept t taken).2 := by
  fun_induction Lexer.takeRun accept s taken generalizing t with
  | case1 s taken run b look ok ih =>
    rw [takeRun_accepted ((step.running h).trans run) ((step.look h).trans look) ok]
    exact ih (step.advance h)
  | case2 s taken run b look other =>
    rw [takeRun_refused ((step.running h).trans run) ((step.look h).trans look) other]
    exact ⟨rfl, h⟩
  | case3 s taken run look =>
    rw [takeRun_of_none ((step.look h).trans look)]
    exact ⟨rfl, h⟩
  | case4 s taken halt =>
    rw [takeRun_of_not_running (by rwa [step.running h])]
    exact ⟨rfl, h⟩

theorem readContent (step : LockStep view R) (h : R s t) (quote : Option UInt8)
    (content : List UInt8) :
    (readContent quote t content).1 = (readContent quote s content).1 ∧
      R (readContent quote s content).2 (readContent quote t content).2 := by
  have running : ∀ {s t}, R s t → s.running = true → t.running = true :=
    fun h run => (step.running h).trans run
  have unlike : ∀ {s t} {c : Option UInt8}, R s t → ¬s.look = c → ¬t.look = c :=
    fun h other => step.look h ▸ other
  fun_induction Lexer.readContent quote s content generalizing t with
  | case1 s content run look =>
    rw [readContent_quote (running h run) ((step.look h).trans look)]
    exact ⟨rfl, h⟩
  | case2 s content run other look last ih =>
    rw [readContent_last (running h run) (unlike h other) ((step.look h).trans look)
      ((step.escape h run look).trans last)]
    exact ih (step.advance (step.warn h (.unknownEscape (step.place h))))
  | case3 s content run other look more escaped b known =>
    rename_i ih
    have moved : R escaped t.advance := step.advance h
    rw [readContent_known (running h run) (unlike h other) ((step.look h).trans look)
      (by rwa [step.escape h run look]) (by rwa [step.look moved])]
    exact ih (step.advance moved)
  | case4 s content run other look more escaped unknown =>
    rename_i ih
    have moved : R escaped t.advance := step.advance h
    rw [readContent_unknown (running h run) (unlike h other) ((step.look h).trans look)
      (by rwa [step.escape h run look]) (by rwa [step.look moved]), step.look moved]
    exact ih (step.advance (step.warn moved (.unknownEscape (step.place moved))))
  | case5 s content run other plain ih =>
    rw [readContent_plain (running h run) (unlike h other) (unlike h plain), step.look h]
    exact ih (step.advance h)
  | case6 s content halt =>
    rw [readContent_of_not_running (by rwa [step.running h])]
    exact ⟨rfl, h⟩

/-- Literals end alike, be it at their closing quote or at the end of the input. -/
theorem readString (step : LockStep view R) (h : R s t) :
    t.readString.1.seen view = s.readString.1.seen view ∧ R s.readString.2 t.readString.2 := by
  obtain ⟨bytes, inner⟩ := step.readContent (step.advance h) s.look []
  simp only [Lexer.readString, step.look h, bytes, step.more inner, step.look inner]
  generalize Lexer.readContent s.look s.advance [] = content at inner ⊢
  generalize Lexer.readContent s.look t.advance [] = content' at inner ⊢
  have closed : R
      (if (content.2.more && decide (content.2.look = s.look)) = true then content.2.advance
        else content.2.fail (.unclosedString s.pos))
      (if (content.2.more && decide (content.2.look = s.look)) = true then content'.2.advance
        else content'.2.fail (.unclosedString t.pos)) := by
    split
    · exact step.advance inner
    · exact step.fail inner (.unclosedString (step.place h))
  refine ⟨?_, ?_⟩
  · rw [Token.seen, Token.seen, step.place closed, step.place h]
  · split
    · exact step.warn closed (.emptyString (step.place h))
    · exact closed

theorem takeSymbol (step : LockStep view R) (h : R s t) (kind : TokenKind) (text : String) :
    (t.takeSymbol kind text).1.seen view = (s.takeSymbol kind text).1.seen view ∧
      R (s.takeSymbol kind text).2 (t.takeSymbol kind text).2 := by
  have right : view ⟨t.lineNumber, t.cursor + 1⟩ = view ⟨s.lineNumber, s.cursor + 1⟩ :=
    step.right h
  refine ⟨?_, step.advance h⟩
  rw [Token.seen, Token.seen, Lexer.takeSymbol, Lexer.takeSymbol, step.place h, right]

theorem readWord (step : LockStep view R) (h : R s t) :
    t.readWord.1.seen view = s.readWord.1.seen view ∧ R s.readWord.2 t.readWord.2 := by
  obtain ⟨bytes, behind⟩ := step.takeRun h isLetter []
  refine ⟨?_, behind⟩
  simp only [Token.seen, Lexer.readWord, bytes, step.place h, step.place behind]

theorem readNumber (step : LockStep view R) (h : R s t) :
    t.readNumber.1.seen view = s.readNumber.1.seen view ∧ R s.readNumber.2 t.readNumber.2 := by
  obtain ⟨bytes, behind⟩ := step.takeRun h isDigit []
  refine ⟨?_, behind⟩
  simp only [Token.seen, Lexer.readNumber, bytes, step.place h, step.place behind]

/-- Both find the same token, or none. -/
theorem readToken? (step : LockStep view R) (h : R s t) :
    t.readToken?.1.map (Token.seen view) = s.readToken?.1.map (Token.seen view) ∧
      R s.readToken?.2 t.readToken?.2 := by
  have found : ∀ {u u' : Token} {t' s' : Lexer}, u'.seen view = u.seen view ∧ R s' t' →
      (some u').map (Token.seen view) = (some u).map (Token.seen view) ∧ R s' t' :=
    fun same => ⟨congrArg some same.1, same.2⟩
  cases look : s.look with
  | none =>
    simp only [Lexer.readToken?, step.look h, look]
    exact ⟨trivial, step.advance h⟩
  | some b =>
    simp only [Lexer.readToken?, step.look h, look]
    split
    · next comment => exact ⟨rfl, step.skipLine h (comment ▸ look)⟩
    repeat' split
    · exact found (step.takeSymbol h .equals "=")
    · exact found (step.takeSymbol h .plus "+")
    · exact found (step.takeSymbol h .question "?")
    · exact found (step.readString h)
    · exact found (step.readWord h)
    · exact found (step.readNumber h)
    · exact ⟨rfl, step.advance h⟩

/-! ### Whole scripts -/

theorem readTokens (step : LockStep view R) (h : R s t) (tokens others : List Token)
    (same : others.map (Token.seen view) = tokens.map (Token.seen view)) :
    (t.readTokens others).1.map (Token.seen view) = (s.readTokens tokens).1.map (Token.seen view) ∧
      R (s.readTokens tokens).2 (t.readTokens others).2 := by
  fun_induction Lexer.readTokens s tokens generalizing t others with
  | case1 s tokens run token s' read ih =>
    have here : R s.skipSpace t.skipSpace := (step.takeRun h isSpace []).2
    obtain ⟨found, next⟩ := step.readToken? here
    rw [read] at found next
    rw [readTokens_of_running ((step.running here).trans run)]
    apply ih next
    rw [List.map_append, List.map_append, ← Option.toList_map, ← Option.toList_map, found, same]
  | case2 s tokens halt =>
    have here : R s.skipSpace t.skipSpace := (step.takeRun h isSpace []).2
    rw [readTokens_of_not_running (by rwa [step.running here])]
    exact ⟨by rw [List.map_reverse, List.map_reverse, same], here⟩

/-- The tokens of both scripts look the same. -/
theorem tokenize (step : LockStep view R) (h : R s t) :
    t.tokenize.1.map (Token.seen view) = s.tokenize.1.map (Token.seen view) ∧
      R s.tokenize.2 t.tokenize.2 := by
  obtain ⟨same, behind⟩ := step.readTokens h [] [] rfl
  have empty : (t.readTokens []).1.isEmpty = (s.readTokens []).1.isEmpty := by
    simpa using congrArg List.isEmpty same
  refine ⟨same, ?_⟩
  simp only [Lexer.tokenize, empty]
  split
  · exact step.fail behind .emptyFile
  · exact behind

end LockStep

end Lexer

end RouteScript
