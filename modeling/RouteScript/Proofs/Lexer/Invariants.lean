import RouteScript.Compile

/-!
What holds of a lexer throughout.

A lexer moves to the next byte and to the next chunk, and it records errors as errors and
warnings as warnings. A property that all four keep (`Invariant`) is kept by every reader
and by `tokenize`, hence it holds behind every scan of which it holds at the start
(`Invariant.scan`). It is enough that the halves of a move keep it, fetching a chunk and
taking a byte (`Invariant.of_halves`).

There are two uses here. The trigger of the sink tells of an error among the entries and only
of that (`invariant_sound`), whatever the chunks are. A lexer whose source does not break off is
never interrupted (`invariant_calm`).
-/

namespace RouteScript

/-! ### Sinks whose trigger tells of errors -/

namespace Diagnostics

/-- The sink is triggered exactly if one of its entries is an error. -/
def Sound (s : Diagnostics) : Prop := s.triggered = s.entries.any Diagnostic.fatal

variable {s : Diagnostics} {d : Diagnostic}

theorem sound_push (s : Diagnostics) (fatal : d.fatal = true) : Sound (Sink.push s d) := by
  simp [Sound, Sink.push, fatal]

theorem Sound.pushWarning (sound : s.Sound) (mild : d.fatal = false) :
    Sound (Sink.pushWarning s d) := by
  simpa [Sound, Sink.pushWarning, mild] using sound

theorem Sound.foldl_push (sound : s.Sound) {found : List Diagnostic}
    (fatal : ∀ d ∈ found, d.fatal = true) : Sound (found.foldl Sink.push s) := by
  induction found generalizing s with
  | nil => exact sound
  | cons d found ih =>
    exact ih (sound_push s (fatal d List.mem_cons_self)) fun e mem =>
      fatal e (List.mem_cons_of_mem _ mem)

theorem Sound.triggered_iff (sound : s.Sound) :
    s.triggered = true ↔ ∃ d ∈ s.entries, d.fatal = true := by
  rw [sound, List.any_eq_true]

theorem Sound.not_triggered (sound : s.Sound) (mild : ∀ d ∈ s.entries, d.fatal = false) :
    s.triggered = false := by
  rw [sound, List.any_eq_false]
  intro d mem
  rw [mild d mem]
  exact Bool.false_ne_true

end Diagnostics

/-! ### Invariants of the lexer -/

namespace Lexer

section

variable {P : Lexer → Prop} {s : Lexer} (advance : ∀ {s : Lexer}, P s → P s.advance)

include advance

/-- A run is moves to the next byte. -/
theorem takeRun_preserves (accept : UInt8 → Bool) (taken : List UInt8) (h : P s) :
    P (takeRun accept s taken).2 := by
  fun_induction Lexer.takeRun accept s taken with
  | case1 s taken run b look accepted ih => exact ih (advance h)
  | case2 | case3 | case4 => exact h

/-- The content of a literal is moves to the next byte, and warnings of one kind. -/
theorem readContent_preserves
    (warn : ∀ {s : Lexer} {pos : Position}, P s → P (s.warn (.unknownEscape pos)))
    (quote : Option UInt8) (content : List UInt8) (h : P s) :
    P (readContent quote s content).2 := by
  fun_induction Lexer.readContent quote s content with
  | case1 | case6 => exact h
  | case2 s content run open' escape last ih => exact ih (advance (warn h))
  | case3 s content run open' escape inside escaped b known ih => exact ih (advance (advance h))
  | case4 s content run open' escape inside escaped unknown ih =>
    exact ih (advance (warn (advance h)))
  | case5 s content run open' plain ih => exact ih (advance h)

end

/-- A property that the moves and the notes of a lexer keep. -/
structure Invariant (P : Lexer → Prop) : Prop where
  advance {s : Lexer} : P s → P s.advance
  skipLine {s : Lexer} : P s → P s.skipLine
  warn {s : Lexer} {d : Diagnostic} : P s → d.fatal = false → P (s.warn d)
  fail {s : Lexer} {d : Diagnostic} : P s → d.fatal = true → P (s.fail d)

namespace Invariant

variable {P : Lexer → Prop} {s : Lexer}

theorem of_halves (take : ∀ {s : Lexer}, P s → P s.take) (refill : ∀ {s : Lexer}, P s → P s.refill)
    (warn : ∀ {s : Lexer} {d : Diagnostic}, P s → d.fatal = false → P (s.warn d))
    (fail : ∀ {s : Lexer} {d : Diagnostic}, P s → d.fatal = true → P (s.fail d)) :
    Invariant P where
  advance {s} h := by
    unfold Lexer.advance
    split
    · exact take (refill h)
    · exact take h
  skipLine h := take (refill h)
  warn := warn
  fail := fail

/-- A property of a lexer that does not depend on what was noted. -/
theorem of_moves (advance : ∀ {s : Lexer}, P s → P s.advance)
    (skipLine : ∀ {s : Lexer}, P s → P s.skipLine)
    (note : ∀ {s : Lexer} {d : Diagnostics}, P s → P { s with diagnostics := d }) :
    Invariant P where
  advance := advance
  skipLine := skipLine
  warn {s d} h _ := by
    unfold Lexer.warn
    split
    · exact h
    · exact note h
  fail {s d} h _ := by
    unfold Lexer.fail
    split
    · exact h
    · exact note h

theorem and {Q : Lexer → Prop} (keeps : Invariant P) (keeps' : Invariant Q) :
    Invariant fun s => P s ∧ Q s where
  advance h := ⟨keeps.advance h.1, keeps'.advance h.2⟩
  skipLine h := ⟨keeps.skipLine h.1, keeps'.skipLine h.2⟩
  warn h mild := ⟨keeps.warn h.1 mild, keeps'.warn h.2 mild⟩
  fail h fatal := ⟨keeps.fail h.1 fatal, keeps'.fail h.2 fatal⟩

/-! #### Readers -/

theorem takeRun (keeps : Invariant P) (accept : UInt8 → Bool) (taken : List UInt8) (h : P s) :
    P (takeRun accept s taken).2 :=
  takeRun_preserves (P := P) keeps.advance accept taken h

theorem readContent (keeps : Invariant P) (quote : Option UInt8) (content : List UInt8) (h : P s) :
    P (readContent quote s content).2 :=
  readContent_preserves (P := P) keeps.advance (fun h => keeps.warn h rfl) quote content h

/-- The quote is passed first, whatever is the look-ahead. -/
theorem readString_of_advance (keeps : Invariant P) (h : P s.advance) : P s.readString.2 := by
  have inner := keeps.readContent s.look [] h
  simp only [Lexer.readString]
  split <;> split
  · exact keeps.warn (keeps.advance inner) rfl
  · exact keeps.warn (keeps.fail inner rfl) rfl
  · exact keeps.advance inner
  · exact keeps.fail inner rfl

theorem readString (keeps : Invariant P) (h : P s) : P s.readString.2 :=
  keeps.readString_of_advance (keeps.advance h)

theorem readToken? (keeps : Invariant P) (h : P s) : P s.readToken?.2 := by
  have symbol : P s.advance := keeps.advance h
  unfold Lexer.readToken?
  split
  · exact symbol
  · repeat' split
    · exact keeps.skipLine h
    · exact symbol
    · exact symbol
    · exact symbol
    · exact keeps.readString h
    · exact keeps.takeRun isLetter [] h
    · exact keeps.takeRun isDigit [] h
    · exact symbol

/-! #### Whole scripts -/

theorem readTokens (keeps : Invariant P) (tokens : List Token) (h : P s) :
    P (s.readTokens tokens).2 := by
  fun_induction Lexer.readTokens s tokens with
  | case1 s tokens run token t read ih =>
    have there : P s.skipSpace.readToken?.2 := keeps.readToken? (keeps.takeRun isSpace [] h)
    rw [read] at there
    exact ih there
  | case2 s tokens halt => exact keeps.takeRun isSpace [] h

theorem tokenize (keeps : Invariant P) (h : P s) : P s.tokenize.2 := by
  have there := keeps.readTokens [] h
  simp only [Lexer.tokenize]
  split
  · exact keeps.fail there rfl
  · exact there

/-- What the moves keep and holds of a lexer at the start holds of the one behind the last
token. -/
theorem scan (keeps : Invariant P) {chunks : List Chunk} {file : String}
    (h : P (start chunks { file })) : P (scan chunks file).2 :=
  keeps.tokenize h

end Invariant

/-! ### The sink of a lexer -/

theorem sound_fetch {s : Lexer} (sound : s.diagnostics.Sound) (chunks : List Chunk) :
    (s.fetch chunks).diagnostics.Sound := by
  induction chunks with
  | nil => exact sound
  | cons chunk rest ih =>
    cases chunk with
    | data bytes =>
      cases bytes with
      | nil => exact ih
      | cons b bytes => exact sound
    | failure => exact Diagnostics.sound_push _ rfl
    | interrupt => exact sound

theorem sound_refill {s : Lexer} (sound : s.diagnostics.Sound) : s.refill.diagnostics.Sound := by
  unfold refill
  split
  · exact sound_fetch sound s.source
  · exact sound

theorem invariant_sound : Invariant fun s => s.diagnostics.Sound := by
  apply Invariant.of_halves
  case take =>
    intro s sound
    unfold take
    repeat' split
    all_goals exact sound
  case refill => exact sound_refill
  case warn =>
    intro s d sound mild
    unfold warn
    split
    · exact sound
    · exact sound.pushWarning mild
  case fail =>
    intro s d sound fatal
    unfold fail
    split
    · exact sound
    · exact Diagnostics.sound_push _ fatal

/-! ### Sources that do not break off -/

/-- A lexer that was not interrupted and whose source will not interrupt it. -/
def Calm (s : Lexer) : Prop := s.interrupted = false ∧ .interrupt ∉ s.source

theorem calm_fetch {s : Lexer} (calm : s.Calm) {chunks : List Chunk}
    (whole : .interrupt ∉ chunks) : (s.fetch chunks).Calm := by
  induction chunks with
  | nil => exact ⟨calm.1, nofun⟩
  | cons chunk rest ih =>
    have later : .interrupt ∉ rest := fun mem => whole (List.mem_cons_of_mem _ mem)
    cases chunk with
    | data bytes =>
      cases bytes with
      | nil => exact ih later
      | cons b bytes => exact ⟨calm.1, later⟩
    | failure => exact ⟨calm.1, later⟩
    | interrupt => exact absurd List.mem_cons_self whole

theorem calm_refill {s : Lexer} (calm : s.Calm) : s.refill.Calm := by
  unfold refill
  split
  · exact calm_fetch calm calm.2
  · exact calm

theorem invariant_calm : Invariant Calm := by
  apply Invariant.of_halves
  case take =>
    intro s calm
    unfold take
    repeat' split
    all_goals exact calm
  case refill => exact calm_refill
  case warn =>
    intro s d calm _
    unfold warn
    split <;> exact calm
  case fail =>
    intro s d calm _
    unfold fail
    split <;> exact calm

/-- A source that does not break off is calm from the start. -/
theorem calm_start {chunks : List Chunk} (whole : .interrupt ∉ chunks) (d : Diagnostics) :
    (start chunks d).Calm := calm_refill ⟨rfl, whole⟩

/-- A scan that was not interrupted has a result. -/
theorem scan?_of_calm {chunks : List Chunk} {file : String}
    (calm : (scan chunks file).2.interrupted = false) :
    scan? chunks file = .ok ((scan chunks file).1, (scan chunks file).2.diagnostics) := by
  simp only [scan?, calm, Bool.false_eq_true, if_false]

/-- A source that does not break off has a result. -/
theorem scan?_eq {chunks : List Chunk} (whole : .interrupt ∉ chunks) (file : String) :
    scan? chunks file = .ok ((scan chunks file).1, (scan chunks file).2.diagnostics) :=
  scan?_of_calm (invariant_calm.scan (calm_start whole _)).1

end Lexer

end RouteScript
