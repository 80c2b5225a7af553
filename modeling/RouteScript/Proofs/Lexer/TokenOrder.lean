import RouteScript.Proofs.Lexer.Moves

/-!
Tokens stand in the order in which they are found.

A lexer never moves back (`invariant_beyond`), and moving on from a byte takes it at least one
column further (`Stands.right_atMost_advance`): to the next byte of the chunk, to a later chunk,
or behind the last one. So a token stops behind its start, and not behind the place where the
lexer goes on (`Spans`). That is so whatever chunks a script arrives in, and whether it ends or
reading it fails.
-/

namespace RouteScript

/-- Every token has a proper place, stops behind its start, and stops before any later token
starts. -/
structure StrictlyOrdered (tokens : List Token) : Prop where
  positive : ∀ t ∈ tokens, 1 ≤ t.loc.start.line ∧ 1 ≤ t.loc.start.column
  forward : ∀ t ∈ tokens, t.loc.start.Before t.loc.stop
  apart : tokens.Pairwise fun t u => t.loc.stop.AtMost u.loc.start

theorem StrictlyOrdered.nil : StrictlyOrdered [] :=
  ⟨List.forall_mem_nil _, List.forall_mem_nil _, .nil⟩

namespace Lexer

variable {s : Lexer}

/-! ### Moving on -/

theorem Stands.atMost_skipLine (stands : Stands s) : s.pos.AtMost s.skipLine.pos := by
  have turned := skipLine_turned s
  generalize s.skipLine = t at turned ⊢
  cases turned with
  | next run here flat => exact .inl (Int.lt_succ _)
  | ended calm left flat notes => exact .inr ⟨rfl, Int.ofNat_le.mpr stands.behind⟩
  | interrupted left broken => exact .refl _

theorem Stands.atMost_advance (stands : Stands s) : s.pos.AtMost s.advance.pos := by
  refine advance_induction (P := fun t => s.pos.AtMost t.pos) s ?_ stands.atMost_skipLine
  intro b bytes run ahead
  exact .inr ⟨rfl, Int.le_of_lt (Int.lt_succ _)⟩

/-- Moving on from a byte leaves it behind. -/
theorem Stands.right_atMost_advance (stands : Stands s) (run : s.running = true)
    (calm : s.advance.interrupted = false) : s.pos.right.AtMost s.advance.pos := by
  cases ahead : s.ahead with
  | cons b bytes =>
    rw [advance_of_cons run ahead]
    exact .refl _
  | nil =>
    obtain ⟨taken, line, cursor, -, -⟩ := stands.inside run
    rw [advance_of_nil ahead] at calm ⊢
    have turned := skipLine_turned s
    generalize s.skipLine = t at turned calm ⊢
    cases turned with
    | next run here flat => exact .inl (Int.lt_succ _)
    | ended quiet left flat notes =>
      have width : s.line.length = s.cursor := by simp [line, ahead, cursor]
      simp [Position.AtMost, Position.right, pos, width]
    | interrupted left broken => cases calm

/-- A lexer that is not in front of `p`, and whose source does not break off. -/
structure Beyond (p : Position) (s : Lexer) : Prop where
  stands : Stands s
  calm : s.Calm
  reached : p.AtMost s.pos

theorem invariant_beyond (p : Position) : Invariant (Beyond p) := by
  apply Invariant.of_moves
  case advance =>
    intro s h
    exact ⟨h.stands.advance, invariant_calm.advance h.calm,
      h.reached.trans h.stands.atMost_advance⟩
  case skipLine =>
    intro s h
    exact ⟨h.stands.skipLine, invariant_calm.skipLine h.calm,
      h.reached.trans h.stands.atMost_skipLine⟩
  case note =>
    intro s d h
    exact ⟨h.stands.note d, h.calm, h.reached⟩

/-! ### Single tokens -/

/-- A token that starts where `s` stands, and behind which `t` stands. -/
structure Spans (s : Lexer) (token : Token) (t : Lexer) : Prop where
  start : token.loc.start = s.pos
  right : s.pos.right.AtMost token.loc.stop
  behind : token.loc.stop.AtMost t.pos

section Tokens

variable {p : Position} (here : Beyond p s) (run : s.running = true)

include here run

theorem Beyond.right : Beyond s.pos.right s.advance :=
  have calm := invariant_calm.advance here.calm
  ⟨here.stands.advance, calm, here.stands.right_atMost_advance run calm.1⟩

theorem takeSymbol_spans (kind : TokenKind) (text : String) :
    Spans s (s.takeSymbol kind text).1 (s.takeSymbol kind text).2 :=
  ⟨rfl, .refl _, (here.right run).reached⟩

/-- A run that is not empty stops behind the byte that it begins with. -/
theorem takeRun_beyond {accept : UInt8 → Bool} {b : UInt8} (look : s.look = some b)
    (ok : accept b = true) : s.pos.right.AtMost (takeRun accept s []).2.pos := by
  rw [takeRun_accepted run look ok]
  exact ((invariant_beyond s.pos.right).takeRun accept [b] (here.right run)).reached

theorem readWord_spans {b : UInt8} (look : s.look = some b) (letter : isLetter b = true) :
    Spans s s.readWord.1 s.readWord.2 :=
  ⟨rfl, takeRun_beyond here run look letter, .refl _⟩

theorem readNumber_spans {b : UInt8} (look : s.look = some b) (digit : isDigit b = true) :
    Spans s s.readNumber.1 s.readNumber.2 :=
  ⟨rfl, takeRun_beyond here run look digit, .refl _⟩

theorem readString_spans : Spans s s.readString.1 s.readString.2 := by
  have beyond := invariant_beyond s.pos.right
  have content := beyond.readContent s.look [] (here.right run)
  simp only [readString]
  generalize (readContent s.look s.advance []).2 = t at content ⊢
  -- The token stops where the literal is left; the last warning does not move the lexer.
  have closed : Beyond s.pos.right
      (if t.more && t.look = s.look then t.advance else t.fail (.unclosedString s.pos)) := by
    split
    · exact beyond.advance content
    · exact beyond.fail content rfl
  generalize (if t.more && t.look = s.look then t.advance
    else t.fail (.unclosedString s.pos)) = u at closed ⊢
  refine ⟨rfl, closed.reached, ?_⟩
  unfold warn
  repeat' split
  all_goals exact .refl _

/-- Whatever token is found, it starts where the lexer stands. -/
theorem readToken?_spans {token : Token} (found : s.readToken?.1 = some token) :
    Spans s token s.readToken?.2 := by
  have stepped := readToken?_stepped s
  generalize s.readToken? = r at found stepped ⊢
  cases stepped with
  | passed => cases found
  | comment look => cases found
  | symbol look sign kind =>
    cases found
    exact takeSymbol_spans here run _ _
  | string look mark =>
    cases found
    exact readString_spans here run
  | word look letter =>
    cases found
    exact readWord_spans here run look letter
  | number look digit =>
    cases found
    exact readNumber_spans here run look digit

end Tokens

/-- No token is found at a blank. -/
theorem look_ne_blank {token : Token} (found : s.readToken?.1 = some token) :
    s.look ≠ some 32 := by
  intro blank
  have passed : s.readToken?.1 = none := by
    simp only [readToken?, blank]
    rfl
  rw [passed] at found
  cases found

/-- Where a token is found, a byte was taken of the chunk. -/
theorem Stands.positive (stands : Stands s) (run : s.running = true) {token : Token}
    (found : s.readToken?.1 = some token) : 1 ≤ s.pos.line ∧ 1 ≤ s.pos.column := by
  obtain ⟨taken, line, cursor, look, row⟩ := stands.inside run
  have column : 1 ≤ s.cursor := by
    cases taken with
    | nil => exact absurd look (look_ne_blank found)
    | cons b taken => simp [cursor]
  exact ⟨Int.ofNat_le.mpr row, Int.ofNat_le.mpr column⟩

/-! ### Whole scripts -/

/-- One more token in front. -/
theorem Spans.ordered {t : Lexer} {token : Token} {later : List Token} (spans : Spans s token t)
    (positive : 1 ≤ s.pos.line ∧ 1 ≤ s.pos.column) (ordered : StrictlyOrdered later)
    (apart : ∀ u ∈ later, t.pos.AtMost u.loc.start) : StrictlyOrdered (token :: later) := by
  have forward : token.loc.start.Before token.loc.stop :=
    spans.start ▸ Position.before_of_right_atMost spans.right
  refine ⟨?_, ?_, ?_⟩
  · exact List.forall_mem_cons.mpr ⟨spans.start ▸ positive, ordered.positive⟩
  · exact List.forall_mem_cons.mpr ⟨forward, ordered.forward⟩
  · exact List.pairwise_cons.mpr ⟨fun u mem => spans.behind.trans (apart u mem), ordered.apart⟩

/-- The tokens that are found from here on are in order, and none starts in front of here. -/
theorem readTokens_ordered (stands : Stands s) (calm : s.Calm) (earlier : List Token) :
    ∃ later, (s.readTokens earlier).1 = earlier.reverse ++ later ∧ StrictlyOrdered later ∧
      ∀ u ∈ later, s.pos.AtMost u.loc.start := by
  fun_induction readTokens s earlier with
  | case1 s earlier run token t read ih =>
    have here := (invariant_beyond s.pos).takeRun isSpace [] ⟨stands, calm, .refl _⟩
    change Beyond s.pos s.skipSpace at here
    have next := (invariant_beyond s.skipSpace.pos).readToken? ⟨here.stands, here.calm, .refl _⟩
    rw [read] at next
    obtain ⟨later, eq, ordered, apart⟩ := ih next.stands next.calm
    have beyond : ∀ u ∈ later, s.pos.AtMost u.loc.start := fun u mem =>
      (here.reached.trans next.reached).trans (apart u mem)
    cases token with
    | none => exact ⟨later, by simpa using eq, ordered, beyond⟩
    | some token =>
      have found : s.skipSpace.readToken?.1 = some token := by rw [read]
      have spans := readToken?_spans here run found
      rw [read] at spans
      have positive := here.stands.positive run found
      refine ⟨token :: later, ?_, spans.ordered positive ordered apart, ?_⟩
      · rw [eq]
        simp
      · rw [List.forall_mem_cons, spans.start]
        exact ⟨here.reached, beyond⟩
  | case2 s earlier halt => exact ⟨[], by simp, .nil, List.forall_mem_nil _⟩

/-- The tokens of a script are strictly in order, however it is cut into chunks, and also if
reading it fails. -/
theorem scan_strictlyOrdered {chunks : List Chunk} (whole : .interrupt ∉ chunks) (file : String) :
    ∃ tokens d, scan? chunks file = .ok (tokens, d) ∧ StrictlyOrdered tokens := by
  obtain ⟨tokens, eq, ordered, -⟩ :=
    readTokens_ordered (.start chunks { file }) (calm_start whole { file }) []
  have read : (scan chunks file).1 = tokens := eq
  exact ⟨tokens, (scan chunks file).2.diagnostics, read ▸ scan?_eq whole file, ordered⟩

/-- A word and a literal that go on in a later chunk, and a failure. -/
theorem scan_strictlyOrdered_cut :
    let chunks : List Chunk :=
      [.data [112, 114], .data [], .data [105, 110, 116, 32, 39, 10, 97], .data [39, 61], .failure]
    .interrupt ∉ chunks ∧ ∃ tokens d, scan? chunks "s" = .ok (tokens, d) ∧ StrictlyOrdered tokens := by
  intro chunks
  have whole : .interrupt ∉ chunks := by decide
  exact ⟨whole, scan_strictlyOrdered whole "s"⟩

end Lexer

end RouteScript
