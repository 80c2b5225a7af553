import RouteScript.Proofs.Lexer.Moves
import RouteScript.Proofs.Lexer.Standing
import RouteScript.Proofs.Text.Encoding

/-!
String literals of text are text.

A lexer reads bytes, but from a script that is text, in chunks that are text each, it collects the
bytes of characters: quotes, backslashes and the ends of chunks only fall between characters. So
what was collected, with what is left of the chunk behind it, is text at every step of a literal
(`readContent_isText`). Hence all content can be decoded, and only a literal for which nothing was
collected is empty (`Decoded`).
-/

namespace RouteScript

/-! ### Lines -/

section Lines

variable {bytes : List UInt8}

/-- The lines of a text are texts; the first of them may have begun before. -/
theorem IsText.lines (xs : List UInt8) (text : IsText (xs ++ bytes)) {l : List UInt8}
    {ls : List (List UInt8)} (cut : Chunk.splitLines bytes = l :: ls) :
    IsText (xs ++ l) ∧ ∀ m ∈ ls, IsText m := by
  induction bytes generalizing xs l ls with
  | nil => cases cut
  | cons b rest ih =>
    have step : Chunk.splitLines (b :: rest) = Chunk.consLine b (Chunk.splitLines rest) := rfl
    rw [step] at cut
    unfold Chunk.consLine at cut
    split at cut
    · next newline =>
      cases cut
      subst newline
      obtain ⟨front, back⟩ := text.split (by decide)
      refine ⟨front.append (.ascii (by decide)), ?_⟩
      cases lines : Chunk.splitLines rest with
      | nil => simp
      | cons l ls =>
        obtain ⟨first, others⟩ := ih [] back lines
        exact List.forall_mem_cons.mpr ⟨first, others⟩
    · have text' : IsText ((xs ++ [b]) ++ rest) := by simpa using text
      cases lines : Chunk.splitLines rest with
      | nil =>
        rw [lines] at cut
        cases cut
        rw [Chunk.eq_nil_of_splitLines lines] at text
        exact ⟨text, List.forall_mem_nil _⟩
      | cons l ls =>
        rw [lines] at cut
        cases cut
        simpa using ih (xs ++ [b]) text' lines

theorem IsText.mem_splitLines (text : IsText bytes) : ∀ l ∈ Chunk.splitLines bytes, IsText l := by
  cases lines : Chunk.splitLines bytes with
  | nil => simp
  | cons l ls =>
    obtain ⟨first, others⟩ := IsText.lines [] text lines
    exact List.forall_mem_cons.mpr ⟨first, others⟩

end Lines

namespace Lexer

variable {s : Lexer}

/-! ### Lexers that read text -/

/-- A lexer whose chunks are texts, this one and those to come. -/
structure Textual (s : Lexer) : Prop where
  stands : Stands s
  calm : s.Calm
  line : IsText s.line
  source : ∀ bytes, .data bytes ∈ s.source → IsText bytes

theorem Textual.start {chunks : List Chunk} (whole : .interrupt ∉ chunks)
    (texts : ∀ bytes, .data bytes ∈ chunks → IsText bytes) (d : Diagnostics) :
    Textual (start chunks d) := by
  have stands := Stands.start chunks d
  have calm := calm_start whole d
  have fetched := start_fetched chunks d
  generalize Lexer.start chunks d = t at stands calm fetched ⊢
  cases fetched with
  | next here flat =>
    exact ⟨stands, calm, texts _ (here.mem List.mem_cons_self),
      fun bytes mem => texts bytes (here.mem (List.mem_cons_of_mem _ mem))⟩
  | ended left flat notes => exact ⟨stands, calm, .nil, fun bytes mem => texts bytes (left.mem mem)⟩
  | interrupted broken => exact absurd broken whole

theorem Textual.skipLine (textual : Textual s) : Textual s.skipLine := by
  have stands := textual.stands.skipLine
  have calm := invariant_calm.skipLine textual.calm
  have turned := skipLine_turned s
  generalize s.skipLine = t at stands calm turned ⊢
  cases turned with
  | next run here flat =>
    exact ⟨stands, calm, textual.source _ (here.mem List.mem_cons_self),
      fun bytes mem => textual.source bytes (here.mem (List.mem_cons_of_mem _ mem))⟩
  | ended quiet left flat notes =>
    exact ⟨stands, calm, textual.line, fun bytes mem => textual.source bytes (left.mem mem)⟩
  | interrupted left broken => cases calm.1

theorem Textual.advance (textual : Textual s) : Textual s.advance := by
  have stands := textual.stands.advance
  have calm := invariant_calm.advance textual.calm
  refine advance_induction (P := fun t => Stands t → t.Calm → Textual t) s ?_ ?_ stands calm
  · intro b bytes run ahead stands calm
    exact ⟨stands, calm, textual.line, textual.source⟩
  · intro _ _
    exact textual.skipLine

theorem Textual.note (textual : Textual s) (d : Diagnostics) :
    Textual { s with diagnostics := d } :=
  ⟨textual.stands.note d, textual.calm, textual.line, textual.source⟩

theorem invariant_textual : Invariant Textual :=
  .of_moves Textual.advance Textual.skipLine fun textual => textual.note _

/-! ### The content of a literal -/

/-- What a lexer has before it of its chunk, from the look-ahead on. -/
def held (s : Lexer) : List UInt8 := if s.running then s.look.toList ++ s.ahead else []

theorem held_of_running (run : s.running = true) {b : UInt8} (look : s.look = some b) :
    s.held = b :: s.ahead := by
  simp [held, run, look]

theorem held_of_not_running (halt : ¬s.running = true) : s.held = [] := if_neg halt

/-- What is text up to the end of the chunk is so up to the end of the next. -/
theorem Textual.text_advance (textual : Textual s) (run : s.running = true) {xs : List UInt8}
    (text : IsText (xs ++ s.ahead)) : IsText (xs ++ s.advance.held) := by
  cases ahead : s.ahead with
  | cons b bytes =>
    have run' : s.advance.running = true := by
      rw [advance_of_cons run ahead]
      exact run
    rw [held_of_running (b := b) run' (by rw [advance_of_cons run ahead]),
      advance_of_cons run ahead, ← ahead]
    exact text
  | nil =>
    rw [ahead, List.append_nil] at text
    rw [advance_of_nil ahead]
    have turned := skipLine_turned s
    generalize s.skipLine = t at turned ⊢
    cases turned with
    | @next b bytes rest _ here flat =>
      change IsText (xs ++ if s.running then b :: bytes else [])
      rw [if_pos run]
      exact text.append (textual.source _ (here.mem List.mem_cons_self))
    | ended calm left flat notes => exact (List.append_nil xs).symm ▸ text
    | interrupted left broken =>
      rw [held_of_not_running (by simp [running]), List.append_nil]
      exact text

/-- Escapes and what is made of them are characters below 128. -/
theorem escape_small {e x : UInt8} (known : escape? e = some x) : e < 128 ∧ x < 128 := by
  unfold escape? at known
  repeat' split at known
  all_goals cases known
  all_goals exact ⟨by simp [*], by decide⟩

@[simp] theorem ahead_warn (s : Lexer) (d : Diagnostic) : (s.warn d).ahead = s.ahead := by
  unfold warn; split <;> rfl

/-- The content of a literal up to its quote is text. -/
theorem readContent_isText (textual : Textual s) {quote : UInt8} (small : quote < 128)
    {content : List UInt8} (text : IsText (content.reverse ++ s.held)) :
    IsText (readContent (some quote) s content).1 := by
  fun_induction readContent (some quote) s content with
  | case1 s content run look =>
    rw [held_of_running run look] at text
    exact (text.split small).1
  | case2 s content run other look last ih =>
    have none : s.ahead = [] := List.isEmpty_iff.mp last
    have warned := invariant_textual.warn (d := .unknownEscape s.pos) textual rfl
    rw [held_of_running run look] at text
    apply ih (warned.advance)
    apply warned.text_advance (by simpa using run)
    simpa [none] using (text.split (by decide)).1
  | case3 s content run other look more escaped x known =>
    rename_i ih
    obtain ⟨e, a, ahead⟩ := List.exists_cons_of_ne_nil fun none => more (List.isEmpty_iff.mpr none)
    have moved := advance_of_cons run ahead
    have known' : escape? e = some x := by simpa [escaped, moved] using known
    obtain ⟨key, made⟩ := escape_small known'
    rw [held_of_running run look, ahead] at text
    obtain ⟨front, back⟩ := text.split (by decide)
    have rest : IsText a := (IsText.nil.append back |>.split key).2
    apply ih textual.advance.advance
    apply textual.advance.text_advance (by rw [moved]; exact run)
    simpa [moved] using front.append ((IsText.ascii made).append rest)
  | case4 s content run other look more escaped unknown =>
    rename_i ih
    obtain ⟨e, a, ahead⟩ := List.exists_cons_of_ne_nil fun none => more (List.isEmpty_iff.mpr none)
    have moved := advance_of_cons run ahead
    have warned := invariant_textual.warn (d := .unknownEscape escaped.pos) textual.advance rfl
    rw [held_of_running run look, ahead] at text
    obtain ⟨front, back⟩ := text.split (by decide)
    apply ih warned.advance
    apply warned.text_advance (by rw [running_warn, moved]; exact run)
    simpa [escaped, moved] using front.append back
  | case5 s content run other plain ih =>
    obtain ⟨taken, line, cursor, look, row⟩ := textual.stands.inside run
    rw [held_of_running run look] at text
    apply ih textual.advance
    apply textual.text_advance run
    simpa [look] using text
  | case6 s content halt => simpa [held_of_not_running halt] using text

/-- All that is collected for a literal is text. -/
theorem Textual.content_isText (textual : Textual s) (run : s.running = true) {quote : UInt8}
    (look : s.look = some quote) (mark : quote = 34 ∨ quote = 39) :
    IsText (readContent s.look s.advance []).1 := by
  have small : quote < 128 := by rcases mark with rfl | rfl <;> decide
  obtain ⟨taken, line, -, look', -⟩ := textual.stands.inside run
  -- The quote was taken of the chunk, and what lies ahead is the text behind it.
  obtain ⟨front, rfl⟩ : ∃ front, taken = front ++ [quote] := by
    rcases List.eq_nil_or_concat taken with rfl | ⟨front, last, rfl⟩
    · cases look'.symm.trans look
      exact absurd mark (by decide)
    · have same : last = quote := by simpa [look] using look'.symm
      exact ⟨front, by rw [same, List.concat_eq_append]⟩
  have chunk := textual.line
  rw [line, List.append_assoc, List.singleton_append] at chunk
  rw [look]
  exact readContent_isText textual.advance small
    (textual.text_advance run (IsText.nil.append (chunk.split small).2))

/-! ### All literals of a script -/

/-- A string literal of a script: where it begins, and the bytes that are collected for it. -/
structure Literal where
  start : Position
  content : List UInt8

/-- The literal that begins at the look-ahead. -/
def literal? (s : Lexer) : Option Literal :=
  if s.look = some 34 ∨ s.look = some 39 then
    some ⟨s.pos, (readContent s.look s.advance []).1⟩
  else none

/-- The literals of the rest of the input, in order. -/
def literals (s : Lexer) : List Literal :=
  if _ : s.skipSpace.running = true then
    s.skipSpace.literal?.toList ++ s.skipSpace.readToken?.2.literals
  else []
termination_by s.weight
decreasing_by
  exact Nat.lt_of_lt_of_le (weight_readToken?_lt ‹_›) (weight_takeRun_le isSpace s [])

end Lexer

/-- A warning about a literal without content. -/
def Diagnostic.isEmptyString : Diagnostic → Bool
  | emptyString _ => true
  | _ => false

/-- What was collected for the literals `found` is UTF-8, the string tokens are what it says, and
those are warned of for which nothing was collected. -/
structure Decoded (found : List Lexer.Literal) (tokens : List Token) (warnings : List Diagnostic) :
    Prop where
  valid : ∀ l ∈ found, (⟨l.content.toArray⟩ : ByteArray).IsValidUTF8
  texts : (tokens.filter (·.kind = .string)).map (fun t => (t.loc.start, some t.text)) =
    found.map fun l => (l.start, String.fromUTF8? ⟨l.content.toArray⟩)
  empty : warnings = (found.filter (·.content.isEmpty)).map (.emptyString ·.start)

namespace Decoded

variable {found found' : List Lexer.Literal} {tokens tokens' : List Token}
  {warnings warnings' : List Diagnostic}

theorem nil : Decoded [] [] [] := ⟨List.forall_mem_nil _, rfl, rfl⟩

theorem append (front : Decoded found tokens warnings) (back : Decoded found' tokens' warnings') :
    Decoded (found ++ found') (tokens ++ tokens') (warnings ++ warnings') := by
  refine ⟨List.forall_mem_append.mpr ⟨front.valid, back.valid⟩, ?_, ?_⟩
  · rw [List.filter_append, List.map_append, List.map_append, front.texts, back.texts]
  · rw [List.filter_append, List.map_append, front.empty, back.empty]

/-- A token that is no string. -/
theorem other {token : Token} (other : token.kind ≠ .string) : Decoded [] [token] [] :=
  ⟨List.forall_mem_nil _, by simp [other], rfl⟩

end Decoded

namespace Lexer

variable {s : Lexer}

/-- The warnings about literals without content. -/
def emptied (s : Lexer) : List Diagnostic := s.diagnostics.entries.filter Diagnostic.isEmptyString

theorem emptied_skipLine (s : Lexer) : s.skipLine.emptied = s.emptied := by
  have turned := skipLine_turned s
  generalize s.skipLine = t at turned ⊢
  cases turned with
  | next run here flat => rfl
  | ended calm left flat notes =>
    rcases notes with rfl | ⟨-, rfl⟩
    · rfl
    · simp [emptied, Sink.push, Diagnostic.isEmptyString]
  | interrupted left broken => rfl

theorem emptied_advance (s : Lexer) : s.advance.emptied = s.emptied :=
  advance_induction (P := fun t => t.emptied = s.emptied) s (fun _ _ _ _ => rfl) s.emptied_skipLine

theorem emptied_takeRun (accept : UInt8 → Bool) (s : Lexer) (taken : List UInt8) :
    (takeRun accept s taken).2.emptied = s.emptied :=
  takeRun_preserves (P := fun t => t.emptied = s.emptied)
    (fun {t} same => t.emptied_advance.trans same) accept taken rfl

theorem emptied_warn (s : Lexer) (pos : Position) :
    (s.warn (.unknownEscape pos)).emptied = s.emptied := by
  unfold warn
  split <;> simp [emptied, Sink.pushWarning, Diagnostic.isEmptyString]

theorem emptied_readContent (quote : Option UInt8) (s : Lexer) (content : List UInt8) :
    (readContent quote s content).2.emptied = s.emptied :=
  readContent_preserves (P := fun t => t.emptied = s.emptied)
    (fun {t} same => t.emptied_advance.trans same)
    (fun {t pos} same => (t.emptied_warn pos).trans same) quote content rfl

theorem emptied_fail (s : Lexer) {d : Diagnostic} (fatal : d.fatal = true) :
    (s.fail d).emptied = s.emptied := by
  have other : d.isEmptyString = false := by
    cases d <;> first | rfl | cases fatal
  unfold fail
  split <;> simp [emptied, Sink.push, other]

theorem emptied_warn_emptyString (calm : s.interrupted = false) (pos : Position) :
    (s.warn (.emptyString pos)).emptied = s.emptied ++ [.emptyString pos] := by
  rw [warn_of_calm calm]
  simp [emptied, Sink.pushWarning, Diagnostic.isEmptyString]

/-- One literal. -/
theorem readString_decoded (textual : Textual s) (run : s.running = true) {quote : UInt8}
    (look : s.look = some quote) (mark : quote = 34 ∨ quote = 39) :
    ∃ warnings, s.readString.2.emptied = s.emptied ++ warnings ∧
      Decoded s.literal?.toList [s.readString.1] warnings := by
  have text := textual.content_isText run look mark
  have calm := invariant_calm.readContent s.look [] (invariant_calm.advance textual.calm)
  have quiet : (readContent s.look s.advance []).2.emptied = s.emptied := by
    rw [emptied_readContent, emptied_advance]
  have begun : s.literal? = some ⟨s.pos, (readContent s.look s.advance []).1⟩ := by
    unfold literal?
    exact if_pos (by simpa [look] using mark)
  rw [begun]
  simp only [readString]
  generalize readContent s.look s.advance [] = r at text calm quiet ⊢
  obtain ⟨content, t⟩ := r
  dsimp only at text calm quiet ⊢
  have closed : ∀ u, u = (if t.more && t.look = s.look then t.advance
      else t.fail (.unclosedString s.pos)) → u.emptied = s.emptied ∧ u.interrupted = false := by
    rintro u rfl
    split
    · exact ⟨t.emptied_advance.trans quiet, (invariant_calm.advance calm).1⟩
    · exact ⟨(t.emptied_fail rfl).trans quiet, (invariant_calm.fail calm rfl).1⟩
  generalize (if t.more && t.look = s.look then t.advance
    else t.fail (.unclosedString s.pos)) = u at closed ⊢
  obtain ⟨same, live⟩ := closed u rfl
  refine ⟨if content = [] then [.emptyString s.pos] else [], ?_, ?_, ?_, ?_⟩
  · by_cases empty : content = []
    · rw [if_pos empty, if_pos (text.contentText_eq_empty.mpr empty),
        emptied_warn_emptyString live, same]
    · rw [if_neg empty, if_neg (mt text.contentText_eq_empty.mp empty), same, List.append_nil]
  · simpa using text.isValidUTF8
  · simp [text.fromUTF8?_eq]
  · cases content <;> rfl

/-- A run of letters is no string. -/
theorem wordKind_ne_string (word : String) : Token.wordKind word ≠ .string := by
  have table : TokenKind.string ∉ Token.reserved.map Prod.snd := by decide
  cases found : Token.reserved.lookup word with
  | none =>
    rw [Token.wordKind, found]
    decide
  | some kind =>
    obtain ⟨front, back, eq, -⟩ := List.lookup_eq_some_iff.mp found
    have mem : (word, kind) ∈ Token.reserved := eq ▸ List.mem_append_right front List.mem_cons_self
    rw [Token.wordKind, found]
    rintro rfl
    exact table (List.mem_map_of_mem mem)

/-- One step of the main loop. -/
theorem readToken?_decoded (textual : Textual s) (run : s.running = true) :
    ∃ warnings, s.readToken?.2.emptied = s.emptied ++ warnings ∧
      Decoded s.literal?.toList s.readToken?.1.toList warnings := by
  have none : ∀ {b : UInt8}, s.look = some b → ¬(b = 34 ∨ b = 39) → s.literal? = none := by
    intro b look other
    unfold literal?
    exact if_neg (by simpa [look] using other)
  have stepped := readToken?_stepped s
  generalize s.readToken? = r at stepped ⊢
  cases stepped with
  | passed double single =>
    have passed : s.literal? = .none := if_neg (not_or.mpr ⟨double, single⟩)
    exact ⟨[], by simp [emptied_advance], passed ▸ .nil⟩
  | comment look => exact ⟨[], by simp [emptied_skipLine], none look (by decide) ▸ .nil⟩
  | @symbol b kind text look sign kind' =>
    have other : ¬(b = 34 ∨ b = 39) := by rcases sign with rfl | rfl | rfl <;> decide
    exact ⟨[], by simp [takeSymbol, emptied_advance], none look other ▸ .other kind'⟩
  | string look mark => exact readString_decoded textual run look mark
  | @word b look letter =>
    have other : ¬(b = 34 ∨ b = 39) := by rintro (rfl | rfl) <;> cases letter
    exact ⟨[], by simp [readWord, emptied_takeRun], none look other ▸ .other (wordKind_ne_string _)⟩
  | @number b look digit =>
    have other : ¬(b = 34 ∨ b = 39) := by rintro (rfl | rfl) <;> cases digit
    exact ⟨[], by simp [readNumber, emptied_takeRun], none look other ▸ .other nofun⟩

/-! ### Whole scripts -/

/-- All literals from here on. -/
theorem readTokens_decoded (textual : Textual s) (earlier : List Token) :
    ∃ later warnings, (s.readTokens earlier).1 = earlier.reverse ++ later ∧
      (s.readTokens earlier).2.emptied = s.emptied ++ warnings ∧
      Decoded s.literals later warnings := by
  fun_induction readTokens s earlier with
  | case1 s earlier run token t read ih =>
    have here : Textual s.skipSpace := invariant_textual.takeRun isSpace [] textual
    have quiet : s.skipSpace.emptied = s.emptied := emptied_takeRun isSpace s []
    obtain ⟨first, noted, decoded⟩ := readToken?_decoded here run
    have next := invariant_textual.readToken? here
    rw [literals, dif_pos run]
    rw [read] at noted decoded next ⊢
    obtain ⟨later, others, eq, noted', decoded'⟩ := ih next
    refine ⟨token.toList ++ later, first ++ others, ?_, ?_, decoded.append decoded'⟩
    · rw [eq]
      cases token <;> simp
    · rw [noted', noted, quiet, List.append_assoc]
  | case2 s earlier halt =>
    have quiet : s.skipSpace.emptied = s.emptied := emptied_takeRun isSpace s []
    rw [literals, dif_neg halt]
    exact ⟨[], [], by simp, by simp [quiet], .nil⟩

theorem emptied_start (chunks : List Chunk) (file : String) :
    (start chunks { file }).emptied = [] := by
  have fetched := start_fetched chunks { file }
  generalize start chunks { file } = t at fetched ⊢
  cases fetched with
  | next here flat => rfl
  | ended left flat notes =>
    rcases notes with rfl | ⟨-, rfl⟩
    · rfl
    · simp [emptied, Sink.push, Diagnostic.isEmptyString]
  | interrupted broken => rfl

theorem emptied_tokenize (s : Lexer) : s.tokenize.2.emptied = (s.readTokens []).2.emptied := by
  simp only [tokenize]
  split
  · exact emptied_fail _ rfl
  · rfl

end Lexer

/-- The literals of a script can be decoded, and its string tokens and warnings say what they
are. -/
def DecodesLiterals (chunks : List Chunk) (file : String) : Prop :=
  ∃ tokens d, Lexer.scan? chunks file = .ok (tokens, d) ∧
    Decoded (Lexer.start chunks { file }).literals tokens (d.entries.filter Diagnostic.isEmptyString)

/-- It is enough that no chunk cuts a character. -/
theorem decodesLiterals_of_isText {chunks : List Chunk} (whole : .interrupt ∉ chunks)
    (texts : ∀ bytes, .data bytes ∈ chunks → IsText bytes) (file : String) :
    DecodesLiterals chunks file := by
  obtain ⟨later, warnings, eq, noted, decoded⟩ :=
    Lexer.readTokens_decoded (.start whole texts { file }) []
  have tokens : (Lexer.scan chunks file).1 = later := eq
  have warned : (Lexer.scan chunks file).2.emptied = warnings := by
    rw [Lexer.scan, Lexer.emptied_tokenize, noted, Lexer.emptied_start, List.nil_append]
  rw [← warned] at decoded
  exact ⟨later, (Lexer.scan chunks file).2.diagnostics, tokens ▸ Lexer.scan?_eq whole file, decoded⟩

/-- String literals are decoded in every script that is text, handed over in texts of any length or
line by line. -/
theorem literals_decoded (file : String) :
    (∀ texts : List String,
      DecodesLiterals (texts.map fun text => .data (Chunk.textBytes text)) file) ∧
    ∀ text : String, DecodesLiterals (Chunk.ofText text) file := by
  constructor
  · intro texts
    apply decodesLiterals_of_isText (by simp)
    intro bytes mem
    obtain ⟨text, -, eq⟩ := List.mem_map.mp mem
    cases eq
    exact .textBytes text
  · intro text
    apply decodesLiterals_of_isText (by simp [Chunk.ofText, Chunk.ofBytes])
    intro bytes mem
    obtain ⟨line, mem, eq⟩ := List.mem_map.mp mem
    cases eq
    exact (IsText.textBytes text).mem_splitLines bytes mem

end RouteScript
