import RouteScript.Compile
import RouteScript.Proofs.Lexer.Standing

/-!
The lexer is the flat scanner.

Each reader of the lexer, from a byte on which it stands, finds what the scanner
finds there, notes the same, and ends up where the scanner goes on (`Agrees`). So do
all of them together (`readTokens_of_at`), over any bytes: with or without a final
newline, and whatever characters they make up.
-/

namespace RouteScript

open Flat

namespace Lexer

variable {bytes : List UInt8} {i : Nat} {b : UInt8} {rest : List UInt8} {s : Lexer}

/-! ### Runs -/

/-- A run is as long as it can be, across lines. -/
theorem At.takeRun (at' : At bytes i s) (accept : UInt8 → Bool) (taken : List UInt8) :
    ∃ s', Lexer.takeRun accept s taken =
        (taken.reverse ++ (bytes.drop i).takeWhile accept, s') ∧
      At bytes (i + ((bytes.drop i).takeWhile accept).length) s' ∧
      s'.diagnostics = s.diagnostics := by
  fun_induction Lexer.takeRun accept s taken generalizing i with
  | case1 s taken run b look ok ih =>
    obtain ⟨b', rest, on⟩ := at'.on_of_running run
    cases on.look.symm.trans look
    obtain ⟨next, quiet⟩ := on.advance
    obtain ⟨s', eq, last, quiet'⟩ := ih next
    rw [drop_succ on.left] at eq last
    refine ⟨s', ?_, ?_, quiet'.trans quiet⟩
    · rw [eq, on.left, List.takeWhile_cons_of_pos ok, List.reverse_cons, List.append_assoc]
      rfl
    · rw [on.left, List.takeWhile_cons_of_pos ok, List.length_cons, Nat.add_comm _ 1,
        ← Nat.add_assoc]
      exact last
  | case2 s taken run b look other =>
    obtain ⟨b', rest, on⟩ := at'.on_of_running run
    cases on.look.symm.trans look
    refine ⟨s, ?_, ?_, rfl⟩
    · rw [on.left, List.takeWhile_cons_of_neg other, List.append_nil]
    · rw [on.left, List.takeWhile_cons_of_neg other]
      exact at'
  | case3 s taken run look =>
    obtain ⟨b', rest, on⟩ := at'.on_of_running run
    cases on.look.symm.trans look
  | case4 s taken halt =>
    have stopped := at'.ended_of_not_running halt
    refine ⟨s, ?_, ?_, rfl⟩
    · rw [stopped.stop, List.drop_length, List.takeWhile_nil, List.append_nil]
    · rw [stopped.stop, List.drop_length]
      exact stopped.stop ▸ at'

/-! ### String literals -/

/-- From `s`, with `content` read before, a literal was read to its closing quote or to
the end. -/
structure Holds (bytes : List UInt8) (quote : UInt8) (l : Literal) (s : Lexer)
    (content : List UInt8) (r : List UInt8 × Lexer) : Prop where
  content : r.1 = content.reverse ++ l.content
  at' : At bytes l.stop r.2
  quoted : r.2.more = true → r.2.look = some quote
  notes : r.2.diagnostics =
    (l.unknown.map fun j => .unknownEscape (place bytes j)).foldl Diagnostics.record s.diagnostics

section Holds

variable {quote : UInt8} {l : Literal} {content : List UInt8} {r : List UInt8 × Lexer}

/-- One byte of the content. -/
theorem Holds.cons {x : UInt8} (holds : Holds bytes quote l s (x :: content) r) :
    Holds bytes quote { l with content := x :: l.content } s content r := by
  refine ⟨?_, holds.at', holds.quoted, holds.notes⟩
  rw [holds.content, List.reverse_cons, List.append_assoc]
  rfl

/-- One note. -/
theorem Holds.note {j : Nat}
    (holds : Holds bytes quote l
      { s with diagnostics := s.diagnostics.record (.unknownEscape (place bytes j)) } content r) :
    Holds bytes quote { l with unknown := j :: l.unknown } s content r :=
  ⟨holds.content, holds.at', holds.quoted, holds.notes⟩

/-- Moving on notes nothing. -/
theorem Holds.of_quiet {t : Lexer} (holds : Holds bytes quote l t content r)
    (quiet : t.diagnostics = s.diagnostics) : Holds bytes quote l s content r :=
  ⟨holds.content, holds.at', holds.quoted, by rw [holds.notes, quiet]⟩

end Holds

theorem ne_of_look {quote : UInt8} (look : s.look = some b) (other : s.look ≠ some quote) :
    b ≠ quote := by
  intro same
  rw [look, same] at other
  exact other rfl

/-- A literal is read across lines and with every note. -/
theorem At.readContent (at' : At bytes i s) (quote : UInt8) (content : List UInt8) :
    Holds bytes quote (literal quote i (bytes.drop i)) s content
      (Lexer.readContent (some quote) s content) := by
  fun_induction Lexer.readContent (some quote) s content generalizing i with
  | case1 s content run look =>
    obtain ⟨b, rest, on⟩ := at'.on_of_running run
    cases on.look.symm.trans look
    rw [on.left, literal_quote]
    exact ⟨by simp, at', fun _ => look, rfl⟩
  | case2 s content run other look last ih =>
    obtain ⟨b, rest, on⟩ := at'.on_of_running run
    cases on.look.symm.trans look
    have none : rest = [] :=
      (on.ahead_eq_nil.mp (List.isEmpty_iff.mp last)).resolve_left (by decide)
    subst none
    rw [warn_eq on.calm rfl, on.pos] at ih ⊢
    obtain ⟨next, quiet⟩ :=
      (on.note (s.diagnostics.record (.unknownEscape (place bytes i)))).advance
    have later := ih next
    rw [drop_succ on.left] at later
    rw [on.left, literal_last (ne_of_look look other)]
    exact (later.of_quiet quiet).note
  | case3 s content run other look more escaped x known =>
    rename_i ih
    obtain ⟨b, rest, on⟩ := at'.on_of_running run
    cases on.look.symm.trans look
    have ahead : s.ahead ≠ [] := by
      intro none
      rw [none] at more
      exact more rfl
    obtain ⟨e, rest', rfl, on', quiet⟩ := on.advance_cons ahead
    obtain ⟨next, quiet'⟩ := on'.advance
    have later := ih next
    rw [drop_succ on'.left] at later
    rw [on'.look] at known
    rw [on.left, literal_known (ne_of_look look other) known]
    exact (later.of_quiet (quiet'.trans quiet)).cons
  | case4 s content run other look more escaped unknown =>
    rename_i ih
    obtain ⟨b, rest, on⟩ := at'.on_of_running run
    cases on.look.symm.trans look
    have ahead : s.ahead ≠ [] := by
      intro none
      rw [none] at more
      exact more rfl
    obtain ⟨e, rest', rfl, on', quiet⟩ := on.advance_cons ahead
    have look' : escaped.look = some e := on'.look
    have kept : escaped.look.toList ++ content = e :: content := by rw [look']; rfl
    rw [kept, warn_eq on'.calm rfl, on'.pos] at ih ⊢
    obtain ⟨next, quiet'⟩ :=
      (on'.note (escaped.diagnostics.record (.unknownEscape (place bytes (i + 1))))).advance
    have later := ih next
    rw [drop_succ on'.left] at later
    rw [look'] at unknown
    rw [on.left, literal_unknown (ne_of_look look other) unknown]
    exact (later.of_quiet quiet').note.cons.of_quiet quiet
  | case5 s content run other plain ih =>
    obtain ⟨b, rest, on⟩ := at'.on_of_running run
    obtain ⟨next, quiet⟩ := on.advance
    have later := ih next
    rw [drop_succ on.left, on.look] at later
    rw [on.left, on.look, literal_plain (ne_of_look on.look other) (ne_of_look on.look plain)]
    exact (later.of_quiet quiet).cons
  | case6 s content halt =>
    have stopped := at'.ended_of_not_running halt
    have ended : bytes.drop i = [] := by rw [stopped.stop, List.drop_length]
    rw [ended, literal.eq_def]
    refine ⟨by simp, at', ?_, rfl⟩
    intro more
    rw [stopped.more] at more
    cases more

/-! ### Single tokens -/

/-- A step of the lexer is the step of the scanner. -/
structure Agrees (bytes : List UInt8) (s : Lexer) (found : Step) (r : Option Token × Lexer) :
    Prop where
  token : r.1 = found.token
  at' : At bytes found.next r.2
  notes : r.2.diagnostics = found.found.foldl Diagnostics.record s.diagnostics

theorem On.takeSymbol (on : On bytes i b rest s) (kind : TokenKind) (text : String) :
    Agrees bytes s (symbol bytes i kind text) ((s.takeSymbol kind text).map some id) := by
  obtain ⟨next, quiet⟩ := on.advance
  refine ⟨?_, next, quiet⟩
  simp [Lexer.takeSymbol, symbol, span, on.pos, behind, on.row, on.column]

/-- Behind a run without newlines a lexer stands one column further. -/
theorem At.pos_run {run tail : List UInt8} (at' : At bytes (i + run.length) s)
    (left : bytes.drop i = run ++ tail) (some' : run ≠ []) (other : ∀ c ∈ run, c ≠ 10) :
    s.pos = behind bytes (i + run.length) := by
  obtain ⟨before, c, rfl⟩ := (List.eq_nil_or_concat run).resolve_left some'
  have last : bytes.drop (i + before.length) = c :: tail := by
    rw [← List.drop_drop, left]
    simp
  rw [List.length_concat, ← Nat.add_assoc] at at' ⊢
  exact at'.pos_succ last (other c (by simp))

/-- A run that starts at the look-ahead, and the position behind it. -/
theorem On.run (on : On bytes i b rest s) {accept : UInt8 → Bool} (ok : accept b = true)
    (breaks : accept 10 = false) :
    let run := (b :: rest).takeWhile accept
    ∃ s', Lexer.takeRun accept s [] = (run, s') ∧ At bytes (i + run.length) s' ∧
      s'.pos = behind bytes (i + run.length) ∧ s'.diagnostics = s.diagnostics := by
  intro run
  obtain ⟨s', eq, at', quiet⟩ := (At.on on).takeRun accept []
  rw [on.left] at eq at'
  have cut : bytes.drop i = run ++ (b :: rest).dropWhile accept := by
    rw [on.left, List.takeWhile_append_dropWhile]
  refine ⟨s', eq, at', at'.pos_run cut ?_ ?_, quiet⟩
  · simp only [List.takeWhile_cons_of_pos ok]
    nofun
  · rintro c mem rfl
    rw [List.all_eq_true.mp List.all_takeWhile _ mem] at breaks
    cases breaks

theorem On.readWord (on : On bytes i b rest s) (letter : isLetter b = true) :
    Agrees bytes s (word bytes i (b :: rest)) (s.readWord.map some id) := by
  obtain ⟨s', eq, at', pos, quiet⟩ := on.run letter rfl
  unfold Lexer.readWord
  rw [eq]
  exact ⟨by simp [word, span, on.pos, pos], at', quiet⟩

theorem On.readNumber (on : On bytes i b rest s) (digit : isDigit b = true) :
    Agrees bytes s (number bytes i (b :: rest)) (s.readNumber.map some id) := by
  obtain ⟨s', eq, at', pos, quiet⟩ := on.run digit rfl
  unfold Lexer.readNumber
  rw [eq]
  exact ⟨by simp [number, span, on.pos, pos], at', quiet⟩

/-- The closing quote, or the note that there is none. -/
theorem At.close {quote : UInt8} {j : Nat} (at' : At bytes j s) (quoted : s.more = true → s.look = some quote)
    (other : quote ≠ 10) (start : Position) :
    let closed := if s.more && s.look = some quote then s.advance else s.fail (.unclosedString start)
    let next := if j < bytes.length then j + 1 else j
    At bytes next closed ∧ closed.pos = behind bytes next ∧
      closed.diagnostics = (if j < bytes.length then [] else [.unclosedString start]).foldl
        Diagnostics.record s.diagnostics := by
  cases at' with
  | on on =>
    obtain ⟨next, quiet⟩ := on.advance
    have look := quoted on.more
    cases on.look.symm.trans look
    simp only [on.more, look, lt_of_drop on.left, decide_true, Bool.and_self, if_true]
    exact ⟨next, next.pos_succ on.left other, quiet⟩
  | ended stopped =>
    have none : ¬j < bytes.length := by
      rw [stopped.stop]
      exact Nat.lt_irrefl _
    simp only [stopped.more, none, Bool.false_and, Bool.false_eq_true, if_false]
    rw [fail_eq stopped.calm rfl]
    exact ⟨(At.ended stopped).note _, stopped.pos, rfl⟩

theorem On.readString (on : On bytes i b rest s) (other : b ≠ 10) :
    Agrees bytes s (string bytes i b rest) (s.readString.map some id) := by
  obtain ⟨next, quiet⟩ := on.advance
  have holds := next.readContent b []
  rw [drop_succ on.left] at holds
  unfold Lexer.readString
  rw [on.look]
  generalize Lexer.readContent (some b) s.advance [] = r at holds ⊢
  obtain ⟨found, s'⟩ := r
  have content : found = (literal b (i + 1) rest).content := holds.content
  have notes := holds.notes
  obtain ⟨closed, pos, notes'⟩ := holds.at'.close holds.quoted other s.pos
  subst content
  dsimp only at closed pos notes notes' ⊢
  generalize (if (s'.more && s'.look = some b) = true then s'.advance
    else s'.fail (.unclosedString s.pos)) = t at closed pos notes' ⊢
  rw [on.pos] at notes'
  rw [quiet] at notes
  by_cases empty : contentText (literal b (i + 1) rest).content = ""
  · rw [if_pos empty, warn_eq closed.calm rfl]
    refine ⟨by simp [string, span, on.pos, pos], closed.note _, ?_⟩
    simp [string, empty, notes', notes, on.pos]
  · rw [if_neg empty]
    refine ⟨by simp [string, span, on.pos, pos], closed, ?_⟩
    simp [string, empty, notes', notes]

/-- One step of the lexer, whatever byte it looks at. -/
theorem On.readToken? (on : On bytes i b rest s) : Agrees bytes s (step bytes i) s.readToken? := by
  unfold Lexer.readToken? step
  simp only [on.look, on.left]
  by_cases comment : b = 35
  · rw [if_pos comment, if_pos comment]
    obtain ⟨at', quiet⟩ := on.skipLine
    exact ⟨rfl, at', quiet⟩
  rw [if_neg comment, if_neg comment]
  by_cases equals : b = 61
  · rw [if_pos equals, if_pos equals]
    exact on.takeSymbol .equals "="
  rw [if_neg equals, if_neg equals]
  by_cases plus : b = 43
  · rw [if_pos plus, if_pos plus]
    exact on.takeSymbol .plus "+"
  rw [if_neg plus, if_neg plus]
  by_cases question : b = 63
  · rw [if_pos question, if_pos question]
    exact on.takeSymbol .question "?"
  rw [if_neg question, if_neg question]
  by_cases quote : b = 34 ∨ b = 39
  · rw [if_pos quote, if_pos quote]
    apply on.readString
    rcases quote with rfl | rfl <;> decide
  rw [if_neg quote, if_neg quote]
  by_cases letter : isLetter b = true
  · rw [if_pos letter, if_pos letter]
    exact on.readWord letter
  rw [if_neg letter, if_neg letter]
  by_cases digit : isDigit b = true
  · rw [if_pos digit, if_pos digit]
    exact on.readNumber digit
  rw [if_neg digit, if_neg digit]
  obtain ⟨at', quiet⟩ := on.advance
  exact ⟨rfl, at', quiet⟩

/-! ### Whole scripts -/

theorem scanFrom_of_drop (left : bytes.drop i = b :: rest) :
    scanFrom bytes i =
      ((step bytes i).token.toList ++ (scanFrom bytes (step bytes i).next).1,
        (step bytes i).found ++ (scanFrom bytes (step bytes i).next).2) := by
  rw [scanFrom, dif_pos (lt_of_drop left)]

/-- The scanner passes over blanks one by one. -/
theorem scanFrom_spaces (bytes : List UInt8) (i : Nat) :
    scanFrom bytes (i + ((bytes.drop i).takeWhile isSpace).length) = scanFrom bytes i := by
  generalize left : bytes.drop i = left'
  induction left' generalizing i with
  | nil => rfl
  | cons b rest ih =>
    by_cases space : isSpace b = true
    · have blank : step bytes i = { next := i + 1 } := by
        unfold step
        rw [left]
        simp only [isSpace, Bool.or_eq_true, decide_eq_true_eq] at space
        rcases space with rfl | rfl <;> rfl
      rw [List.takeWhile_cons_of_pos space, List.length_cons, Nat.add_comm _ 1, ← Nat.add_assoc,
        ih (i + 1) (drop_succ left), scanFrom_of_drop left, blank]
      rfl
    · rw [List.takeWhile_cons_of_neg space]
      rfl

/-- Blanks are passed over before each step. -/
theorem At.skipSpace (at' : At bytes i s) :
    ∃ j, At bytes j s.skipSpace ∧ scanFrom bytes j = scanFrom bytes i ∧
      s.skipSpace.diagnostics = s.diagnostics := by
  obtain ⟨s', eq, last, quiet⟩ := at'.takeRun isSpace []
  have same : s.skipSpace = s' := by rw [Lexer.skipSpace, eq]
  exact ⟨_, same ▸ last, scanFrom_spaces bytes i, same ▸ quiet⟩

/-- The rest of a script, from a byte that is no blank. -/
theorem readTokens_of_at (at' : At bytes i s.skipSpace) (tokens : List Token) :
    ∃ s', s.readTokens tokens = (tokens.reverse ++ (scanFrom bytes i).1, s') ∧
      s'.interrupted = false ∧
      s'.diagnostics = (scanFrom bytes i).2.foldl Diagnostics.record s.skipSpace.diagnostics := by
  fun_induction readTokens s tokens generalizing i with
  | case1 s tokens run token t read ih =>
    obtain ⟨b, rest, on⟩ := at'.on_of_running run
    have agrees := on.readToken?
    rw [read] at agrees
    obtain ⟨j, next, same, quiet⟩ := agrees.at'.skipSpace
    obtain ⟨s', eq, calm, notes⟩ := ih next
    refine ⟨s', ?_, calm, ?_⟩
    · rw [eq, same, scanFrom_of_drop on.left, ← agrees.token]
      cases token <;> simp
    · rw [notes, quiet, agrees.notes, same, scanFrom_of_drop on.left, List.foldl_append]
  | case2 s tokens halt =>
    have stopped := at'.ended_of_not_running halt
    have none : scanFrom bytes i = ([], []) := by
      rw [scanFrom, dif_neg]
      rw [stopped.stop]
      exact Nat.lt_irrefl _
    rw [none]
    exact ⟨s.skipSpace, by simp, stopped.calm, rfl⟩

/-- The blank before the first step is passed over, and the first byte is looked at. -/
theorem start_skipSpace (b : UInt8) (rest : List UInt8) (d : Diagnostics) :
    ∃ j, At (b :: rest) j (start (Chunk.ofBytes (b :: rest)) d).skipSpace ∧
      scanFrom (b :: rest) j = scanFrom (b :: rest) 0 ∧
      (start (Chunk.ofBytes (b :: rest)) d).skipSpace.diagnostics = d := by
  obtain ⟨a, ls, lines⟩ := Chunk.splitLines_cons b rest
  let s : Lexer := start (Chunk.ofBytes (b :: rest)) d
  have begun : s = {
      source := ls.map .data, line := b :: a, ahead := b :: a, lineNumber := 1,
      diagnostics := d } := by
    simp [s, start, refill, Chunk.ofBytes, lines, Lexer.running, fetch]
  have first : On (b :: rest) 0 b rest s.advance := by
    rw [begun]
    exact ⟨rfl, rfl, rfl, rfl, ⟨ls, lines, rfl⟩, rfl, rfl, by simp [Lexer.advance, take, Nat.add_comm]⟩
  obtain ⟨s', eq, last, quiet⟩ := (At.on first).takeRun isSpace [32]
  have same : s.skipSpace = s' := by
    have run : s.running = true := by
      rw [begun]
      rfl
    have look : s.look = some 32 := by rw [begun]
    have blank : isSpace 32 = true := rfl
    rw [Lexer.skipSpace, Lexer.takeRun]
    simp only [run, look, blank, dif_pos, if_true, eq]
  refine ⟨_, same ▸ last, scanFrom_spaces (b :: rest) 0, ?_⟩
  rw [same, quiet, begun]
  rfl

/-- Over a whole file, lexer and scanner find the same and note the same. -/
theorem scan_ofBytes (bytes : List UInt8) (file : String) :
    ∃ s, scan (Chunk.ofBytes bytes) file = ((Flat.scan bytes).1, s) ∧ s.interrupted = false ∧
      s.diagnostics = (Flat.scan bytes).2.foldl Diagnostics.record { file } := by
  have read : ∃ s, (start (Chunk.ofBytes bytes) { file }).readTokens [] =
      ((scanFrom bytes 0).1, s) ∧ s.interrupted = false ∧
      s.diagnostics = (scanFrom bytes 0).2.foldl Diagnostics.record { file } := by
    cases bytes with
    | nil =>
      have none : scanFrom [] 0 = ([], []) := by
        rw [scanFrom]
        exact dif_neg (Nat.lt_irrefl 0)
      let s : Lexer := { source := [], more := false, diagnostics := { file } }
      have ended : s.skipSpace = s := by
        rw [Lexer.skipSpace, Lexer.takeRun]
        rfl
      rw [none]
      refine ⟨s, ?_, rfl, rfl⟩
      have begun : start (Chunk.ofBytes []) { file } = s := rfl
      rw [begun, readTokens, ended]
      rfl
    | cons b rest =>
      obtain ⟨j, at', same, quiet⟩ := start_skipSpace b rest { file }
      obtain ⟨s, eq, calm, notes⟩ := readTokens_of_at at' []
      rw [same] at eq notes
      rw [quiet] at notes
      exact ⟨s, eq, calm, notes⟩
  obtain ⟨s, eq, calm, notes⟩ := read
  unfold scan tokenize Flat.scan
  rw [eq]
  by_cases empty : (scanFrom bytes 0).1.isEmpty = true
  · refine ⟨s.fail .emptyFile, by simp [empty], ?_, ?_⟩
    · rw [fail_eq calm rfl]
      exact calm
    · rw [fail_eq calm rfl, notes]
      simp [empty]
  · exact ⟨s, by simp [empty], calm, by simp [empty, notes]⟩

end Lexer

/-- The lexer finds the tokens of the flat scanner and records what that notes, in the
same order, for every text. -/
theorem scan_ofText_eq_flat (text file : String) :
    Lexer.scan? (Chunk.ofText text) file =
      .ok ((Flat.scan (Chunk.textBytes text)).1,
        (Flat.scan (Chunk.textBytes text)).2.foldl Diagnostics.record { file }) := by
  obtain ⟨s, eq, calm, notes⟩ := Lexer.scan_ofBytes (Chunk.textBytes text) file
  unfold Lexer.scan? Chunk.ofText
  rw [eq]
  simp [calm, notes]

end RouteScript
