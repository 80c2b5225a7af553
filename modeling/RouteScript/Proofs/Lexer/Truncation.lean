import RouteScript.Proofs.Lexer.LockStep

/-!
A failure to read ends the script.

A script that cannot be read to its end has the tokens, in the same places, that it would have if
it ended there. That reading failed is noted once, with the number of lines read so far, and
nothing that follows the failure is asked for (`scan?_failure`).

The failure shows at whichever move asks for more behind the last chunk: before the first byte,
within a token or a comment, or between tokens. Up to that move the two lexers differ in their
sources only, and from there on in that one note only (`Truncated`).
-/

namespace RouteScript

/-- `broken` holds what `whole` does, and among it once that reading broke off after `n` lines. -/
def Diagnostics.BreaksOff (n : Nat) (whole broken : Diagnostics) : Prop :=
  ∃ front back, whole.entries = front ++ back ∧
    broken = { whole with entries := front ++ .unreadableLine n :: back, triggered := true }

namespace Diagnostics.BreaksOff

variable {n : Nat} {whole broken : Diagnostics}

theorem noted (whole : Diagnostics) (n : Nat) :
    BreaksOff n whole (Sink.push whole (.unreadableLine n)) :=
  ⟨whole.entries, [], (List.append_nil _).symm, rfl⟩

theorem push (breaks : BreaksOff n whole broken) (d : Diagnostic) :
    BreaksOff n (Sink.push whole d) (Sink.push broken d) := by
  obtain ⟨front, back, eq, rfl⟩ := breaks
  exact ⟨front, back ++ [d], by simp [Sink.push, eq], by simp [Sink.push]⟩

theorem pushWarning (breaks : BreaksOff n whole broken) (d : Diagnostic) :
    BreaksOff n (Sink.pushWarning whole d) (Sink.pushWarning broken d) := by
  obtain ⟨front, back, eq, rfl⟩ := breaks
  exact ⟨front, back ++ [d], by simp [Sink.pushWarning, eq], by simp [Sink.pushWarning]⟩

end Diagnostics.BreaksOff

theorem Diagnostic.Matches.eq {d e : Diagnostic} (same : d.Matches id e) : e = d := by
  cases same with
  | emptyFile => rfl
  | unclosedString place | unknownEscape place | emptyString place => exact congrArg _ place

theorem Token.seen_id_injective : Function.Injective (Token.seen id) := by
  rintro ⟨kind, ⟨start, stop⟩, text⟩ ⟨kind', ⟨start', stop'⟩, text'⟩ same
  cases same
  rfl

namespace Lexer

variable {s t : Lexer} {n : Nat} {later : List Chunk}

/-- The second lexer reads the chunks of the first, which come to `n` lines in all, and behind them
is a failure in front of `later`. -/
inductive Truncated (n : Nat) (later : List Chunk) : Lexer → Lexer → Prop where
  /-- Both still ask for more. -/
  | before {s : Lexer} {cs : List (List UInt8)} : s.more = true → s.interrupted = false →
      s.source = cs.map .data → s.lineNumber + cs.countP (· ≠ []) = n →
      Truncated n later s { s with source := s.source ++ .failure :: later }
  /-- Both are at their end, which only the second takes for a failure. -/
  | behind {s : Lexer} {d : Diagnostics} : s.more = false → s.interrupted = false →
      s.diagnostics.BreaksOff n d → Truncated n later s { s with source := later, diagnostics := d }

namespace Truncated

theorem calm (h : Truncated n later s t) : s.interrupted = false ∧ t.interrupted = false := by
  cases h with
  | before _ calm => exact ⟨calm, calm⟩
  | behind _ calm => exact ⟨calm, calm⟩

theorem running_eq (h : Truncated n later s t) : t.running = s.running := by cases h <;> rfl

theorem ahead_eq (h : Truncated n later s t) : t.ahead = s.ahead := by cases h <;> rfl

theorem fetch {cs : List (List UInt8)} (more : s.more = true) (calm : s.interrupted = false)
    (lines : s.lineNumber + cs.countP (· ≠ []) = n) (source : List Chunk) :
    Truncated n later (s.fetch (cs.map .data))
      (Lexer.fetch { s with source } (cs.map .data ++ .failure :: later)) := by
  induction cs with
  | nil =>
    obtain rfl : s.lineNumber = n := lines
    exact .behind rfl calm (.noted s.diagnostics s.lineNumber)
  | cons c cs ih =>
    cases c with
    | nil => exact ih lines
    | cons b bytes =>
      have further : s.lineNumber + 1 + cs.countP (· ≠ []) = n := by
        rw [List.countP_cons_of_pos (by simp)] at lines
        omega
      exact .before more calm rfl further

theorem refill (h : Truncated n later s t) : Truncated n later s.refill t.refill := by
  unfold Lexer.refill
  rw [h.running_eq]
  split
  · next run =>
    cases h with
    | before more calm source lines =>
      simp only [source]
      exact fetch more calm lines _
    | behind ended => simp [running, ended] at run
  · exact h

theorem take (h : Truncated n later s t) : Truncated n later s.take t.take := by
  obtain ⟨chunks, line, ahead, cursor, lineNumber, look, more, interrupted, d⟩ := s
  cases h with
  | before more calm source lines =>
    cases more
    cases calm
    cases ahead <;> exact .before rfl rfl source lines
  | behind ended calm notes =>
    cases ended
    cases calm
    exact .behind rfl rfl notes

end Truncated

theorem lockStep_truncated (n : Nat) (later : List Chunk) : LockStep id (Truncated n later) where
  more h := by cases h <;> rfl
  interrupted h := by rw [h.calm.1, h.calm.2]
  look h := by cases h <;> rfl
  place h := by cases h <;> rfl
  right h := by cases h <;> rfl
  escape h _ _ := by rw [h.ahead_eq]
  advance {s t} h := by
    rw [advance, advance, h.ahead_eq]
    split
    · exact h.refill.take
    · exact h.take
  skipLine h _ := h.refill.take
  warn {s t d e} h same := by
    rw [same.eq, warn_of_calm h.calm.1, warn_of_calm h.calm.2]
    cases h with
    | before more calm source lines => exact .before more calm source lines
    | behind ended calm notes => exact .behind ended calm (notes.pushWarning d)
  fail {s t d e} h same := by
    rw [same.eq, fail_of_calm h.calm.1, fail_of_calm h.calm.2]
    cases h with
    | before more calm source lines => exact .before more calm source lines
    | behind ended calm notes => exact .behind ended calm (notes.push d)

/-- Behind its last token a lexer does not run. -/
theorem tokenize_not_running (s : Lexer) : s.tokenize.2.running = false := by
  have halt : ∀ tokens, (s.readTokens tokens).2.running = false := by
    intro tokens
    fun_induction readTokens s tokens with
    | case1 s tokens run token t read ih => exact ih
    | case2 s tokens halt => simpa using halt
  simp only [tokenize]
  split
  · exact (running_fail ..).trans (halt [])
  · exact halt []

/-- Two lexers of which the second meets a failure behind the chunks of the first have the same
tokens, and in the end they differ in one note. -/
theorem scan_failure (cs : List (List UInt8)) (later : List Chunk) (file : String) :
    let whole := scan (cs.map .data) file
    let broken := scan (cs.map .data ++ .failure :: later) file
    broken.1 = whole.1 ∧ (whole.2.interrupted = false ∧ broken.2.interrupted = false) ∧
      whole.2.diagnostics.BreaksOff (cs.countP (· ≠ [])) broken.2.diagnostics ∧
      broken.2.source = later := by
  have begun : Truncated (cs.countP (· ≠ [])) later (start (cs.map .data) { file })
      (start (cs.map .data ++ .failure :: later) { file }) :=
    Truncated.refill (.before rfl rfl rfl (Nat.zero_add _))
  obtain ⟨seen, ended⟩ := (lockStep_truncated _ later).tokenize begun
  have halt := tokenize_not_running (start (cs.map .data) { file })
  refine ⟨(List.map_inj_right Token.seen_id_injective).mp seen, ended.calm, ?_⟩
  unfold scan
  generalize (start (cs.map .data) { file }).tokenize.2 = s at ended halt ⊢
  generalize (start (cs.map .data ++ .failure :: later) { file }).tokenize.2 = t at ended ⊢
  cases ended with
  | before more calm => simp [running, more, calm] at halt
  | behind _ _ notes => exact ⟨notes, rfl⟩

/-- A script ends where reading it fails, whatever would have come later: its tokens are those of
the chunks read, and there is one note more. -/
theorem scan?_failure (cs : List (List UInt8)) (later : List Chunk) (file : String) :
    ∃ tokens whole broken,
      scan? (cs.map .data) file = .ok (tokens, whole) ∧
      scan? (cs.map .data ++ .failure :: later) file = .ok (tokens, broken) ∧
      whole.BreaksOff (cs.countP (· ≠ [])) broken ∧
      (scan (cs.map .data ++ .failure :: later) file).2.source = later := by
  obtain ⟨tokens, calm, notes, source⟩ := scan_failure cs later file
  exact ⟨_, _, _, scan?_of_calm calm.1, tokens ▸ scan?_of_calm calm.2, notes, source⟩

end Lexer

end RouteScript
