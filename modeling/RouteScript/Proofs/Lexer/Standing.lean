import RouteScript.Proofs.Lexer.Flat

/-!
Where a lexer stands in the bytes of a script.

A lexer that reads a script line by line keeps the current line, what of it lies
ahead, and two counters. `At` relates all of that to one index into the bytes of the
whole script: the look-ahead is on that byte (`On`), or everything was read
(`Ended`). Moving the look-ahead moves the index by one (`On.advance`), also where
the current line is used up and the next one is fetched, and passing over the rest
of a line moves it to the next (`On.skipLine`).
-/

namespace RouteScript

/-! ### Lines -/

namespace Chunk

theorem splitLines_cons (b : UInt8) (rest : List UInt8) :
    ∃ a ls, splitLines (b :: rest) = (b :: a) :: ls := by
  have step : splitLines (b :: rest) = consLine b (splitLines rest) := rfl
  rw [step]
  unfold consLine
  split
  · exact ⟨_, _, rfl⟩
  · split <;> exact ⟨_, _, rfl⟩

theorem eq_nil_of_splitLines {bytes : List UInt8} (h : splitLines bytes = []) : bytes = [] := by
  cases bytes with
  | nil => rfl
  | cons b rest =>
    obtain ⟨a, ls, lines⟩ := splitLines_cons b rest
    rw [lines] at h
    cases h

/-- The first line begins with the first byte. -/
theorem eq_cons_of_splitLines {bytes l : List UInt8} {ls : List (List UInt8)}
    (h : splitLines bytes = l :: ls) : ∃ b a rest, l = b :: a ∧ bytes = b :: rest := by
  cases bytes with
  | nil => cases h
  | cons b rest =>
    obtain ⟨a, ls', lines⟩ := splitLines_cons b rest
    rw [lines] at h
    cases h
    exact ⟨b, a, rest, rfl, rfl⟩

/-- Without its first byte a line goes on, or the next one begins. -/
theorem splitLines_tail {b : UInt8} {rest a : List UInt8} {ls : List (List UInt8)}
    (h : splitLines (b :: rest) = (b :: a) :: ls) :
    (a = [] ∧ splitLines rest = ls ∧ (b = 10 ∨ ls = [])) ∨
      (a ≠ [] ∧ splitLines rest = a :: ls ∧ b ≠ 10) := by
  have step : splitLines (b :: rest) = consLine b (splitLines rest) := rfl
  rw [step] at h
  unfold consLine at h
  split at h
  · next newline =>
    cases h
    exact .inl ⟨rfl, rfl, .inl newline⟩
  · next other =>
    cases lines : splitLines rest with
    | nil =>
      rw [lines] at h
      cases h
      exact .inl ⟨rfl, rfl, .inr rfl⟩
    | cons l others =>
      rw [lines] at h
      obtain ⟨b', a', rest', rfl, rfl⟩ := eq_cons_of_splitLines lines
      cases h
      exact .inr ⟨nofun, rfl, other⟩

end Chunk

/-! ### Places -/

namespace Flat

variable {bytes : List UInt8} {i : Nat} {b : UInt8} {rest : List UInt8}

theorem drop_succ (left : bytes.drop i = b :: rest) : bytes.drop (i + 1) = rest := by
  rw [← List.drop_drop, left, List.drop_one, List.tail_cons]

theorem take_succ (left : bytes.drop i = b :: rest) : bytes.take (i + 1) = bytes.take i ++ [b] := by
  rw [List.take_add, left]
  rfl

theorem lt_of_drop (left : bytes.drop i = b :: rest) : i < bytes.length := by
  have := congrArg List.length left
  rw [List.length_drop, List.length_cons] at this
  omega

theorem row_succ (left : bytes.drop i = b :: rest) :
    row bytes (i + 1) = if b = 10 then row bytes i + 1 else row bytes i := by
  simp only [row, take_succ left, List.count_append, List.count_singleton]
  by_cases newline : b = 10
  · simp [newline, Nat.add_assoc]
  · simp [newline]

theorem column_succ (left : bytes.drop i = b :: rest) :
    column bytes (i + 1) = if b = 10 then 1 else column bytes i + 1 := by
  simp only [column, take_succ left, List.reverse_append, List.reverse_singleton,
    List.singleton_append, List.takeWhile_cons]
  by_cases newline : b = 10
  · simp [newline]
  · simp [newline, Nat.add_assoc]

/-- Behind any byte but a newline, the next one follows on the same line. -/
theorem place_succ (left : bytes.drop i = b :: rest) (other : b ≠ 10) :
    place bytes (i + 1) = behind bytes (i + 1) := by
  simp [place, behind, row_succ left, column_succ left, other]

end Flat

open Flat

namespace Lexer

/-! ### Standing on a byte -/

/-- The look-ahead is on byte number `i`, which is `b` and has `rest` behind it. -/
structure On (bytes : List UInt8) (i : Nat) (b : UInt8) (rest : List UInt8) (s : Lexer) : Prop where
  left : bytes.drop i = b :: rest
  calm : s.interrupted = false
  more : s.more = true
  look : s.look = some b
  lines : ∃ ls, Chunk.splitLines (b :: rest) = (b :: s.ahead) :: ls ∧ s.source = ls.map .data
  row : s.lineNumber = row bytes i
  column : s.cursor = column bytes i
  width : s.line.length = s.cursor + s.ahead.length

/-- All bytes were read, and `i` is their number. -/
structure Ended (bytes : List UInt8) (i : Nat) (s : Lexer) : Prop where
  stop : i = bytes.length
  calm : s.interrupted = false
  more : s.more = false
  pos : s.pos = behind bytes i

/-- A lexer stands at byte number `i`, or at the end. -/
inductive At (bytes : List UInt8) (i : Nat) (s : Lexer) : Prop where
  | on {b : UInt8} {rest : List UInt8} : On bytes i b rest s → At bytes i s
  | ended : Ended bytes i s → At bytes i s

variable {bytes : List UInt8} {i : Nat} {b : UInt8} {rest : List UInt8} {s : Lexer}

theorem On.running (on : On bytes i b rest s) : s.running = true := by
  simp [Lexer.running, on.more, on.calm]

theorem Ended.running (stopped : Ended bytes i s) : s.running = false := by
  simp [Lexer.running, stopped.more]

theorem At.calm (at' : At bytes i s) : s.interrupted = false := by
  cases at' with
  | on on => exact on.calm
  | ended stopped => exact stopped.calm

theorem On.pos (on : On bytes i b rest s) : s.pos = place bytes i := by
  rw [Lexer.pos, place, on.row, on.column]

/-- A running lexer stands on the byte that it looks at. -/
theorem At.on_of_running (at' : At bytes i s) (run : s.running = true) :
    ∃ b rest, On bytes i b rest s := by
  cases at' with
  | on on => exact ⟨_, _, on⟩
  | ended stopped => rw [stopped.running] at run; cases run

theorem At.ended_of_not_running (at' : At bytes i s) (halt : ¬s.running = true) : Ended bytes i s := by
  cases at' with
  | on on => exact absurd on.running halt
  | ended stopped => exact stopped

/-- Behind a byte that is no newline a lexer stands one column further. -/
theorem At.pos_succ (at' : At bytes (i + 1) s) (left : bytes.drop i = b :: rest)
    (other : b ≠ 10) : s.pos = behind bytes (i + 1) := by
  cases at' with
  | on on => rw [on.pos, place_succ left other]
  | ended stopped => exact stopped.pos

/-- A newline, or the last byte of all, is the last byte of its line. -/
theorem On.ahead_eq_nil (on : On bytes i b rest s) : s.ahead = [] ↔ b = 10 ∨ rest = [] := by
  obtain ⟨ls, lines, -⟩ := on.lines
  rcases Chunk.splitLines_tail lines with ⟨none, tail, newline⟩ | ⟨some, tail, other⟩
  · constructor
    · intro _
      rcases newline with newline | rfl
      · exact .inl newline
      · exact .inr (Chunk.eq_nil_of_splitLines tail)
    · intro _
      exact none
  · obtain ⟨b', a, rest', -, rfl⟩ := Chunk.eq_cons_of_splitLines tail
    simp [some, other]

/-! ### Notes -/

theorem On.note (on : On bytes i b rest s) (d : Diagnostics) :
    On bytes i b rest { s with diagnostics := d } :=
  ⟨on.left, on.calm, on.more, on.look, on.lines, on.row, on.column, on.width⟩

theorem At.note (at' : At bytes i s) (d : Diagnostics) : At bytes i { s with diagnostics := d } := by
  cases at' with
  | on on => exact .on (on.note d)
  | ended stopped => exact .ended ⟨stopped.stop, stopped.calm, stopped.more, stopped.pos⟩

theorem warn_eq (calm : s.interrupted = false) {d : Diagnostic} (mild : d.fatal = false) :
    s.warn d = { s with diagnostics := s.diagnostics.record d } := by
  simp [warn, calm, Diagnostics.record, mild]

theorem fail_eq (calm : s.interrupted = false) {d : Diagnostic} (fatal : d.fatal = true) :
    s.fail d = { s with diagnostics := s.diagnostics.record d } := by
  simp [fail, calm, Diagnostics.record, fatal]

/-! ### Moving on -/

/-- Behind the last byte of the current line the next line begins, or all is read. -/
theorem On.advance_nil (on : On bytes i b rest s) (none : s.ahead = []) :
    At bytes (i + 1) s.advance ∧ s.advance.diagnostics = s.diagnostics := by
  obtain ⟨ls, lines, source⟩ := on.lines
  rw [none] at lines
  have tail : Chunk.splitLines rest = ls ∧ (b = 10 ∨ ls = []) := by
    rcases Chunk.splitLines_tail lines with ⟨-, tail⟩ | ⟨some, -⟩
    · exact tail
    · exact absurd rfl some
  obtain ⟨tail, newline⟩ := tail
  have fetched : s.advance = (s.fetch s.source).take := by
    simp [Lexer.advance, none, refill, on.running]
  have width : s.line.length = s.cursor := by simpa [none] using on.width
  cases ls with
  | nil =>
    have last : rest = [] := Chunk.eq_nil_of_splitLines tail
    have ended : s.advance = { s with
        source := [], more := false, look := .none, ahead := [], cursor := s.line.length + 1 } := by
      rw [fetched, source]
      simp [fetch, take, on.calm]
    rw [ended]
    refine ⟨.ended ⟨?_, on.calm, rfl, ?_⟩, rfl⟩
    · have length := congrArg List.length on.left
      rw [List.length_drop, last, List.length_singleton] at length
      omega
    · simp [Lexer.pos, behind, on.row, width, on.column]
  | cons l ls =>
    obtain ⟨b', a, rest', rfl, rfl⟩ := Chunk.eq_cons_of_splitLines tail
    have newline : b = 10 := newline.resolve_right (List.cons_ne_nil _ _)
    have begun : s.advance = { s with
        source := ls.map .data, line := b' :: a, ahead := a, cursor := 1,
        lineNumber := s.lineNumber + 1, look := some b' } := by
      rw [fetched, source]
      simp [fetch, take, on.calm, on.more]
    rw [begun]
    refine ⟨.on ⟨drop_succ on.left, on.calm, on.more, rfl, ⟨ls, tail, rfl⟩, ?_, ?_, ?_⟩, rfl⟩
    · simp [row_succ on.left, newline, on.row]
    · simp [column_succ on.left, newline]
    · simp [Nat.add_comm]

/-- Within the current line only the column changes. -/
theorem On.advance_cons (on : On bytes i b rest s) (some' : s.ahead ≠ []) :
    ∃ b' rest', rest = b' :: rest' ∧ On bytes (i + 1) b' rest' s.advance ∧
      s.advance.diagnostics = s.diagnostics := by
  obtain ⟨ls, lines, source⟩ := on.lines
  rcases Chunk.splitLines_tail lines with ⟨none, -⟩ | ⟨-, tail, other⟩
  · exact absurd none some'
  · obtain ⟨b', a, rest', ahead, rfl⟩ := Chunk.eq_cons_of_splitLines tail
    have moved : s.advance = { s with look := some b', ahead := a, cursor := s.cursor + 1 } := by
      simp [Lexer.advance, take, ahead, on.calm, on.more]
    rw [ahead] at tail
    have width := on.width
    rw [ahead, List.length_cons] at width
    rw [moved]
    refine ⟨b', rest', rfl,
      ⟨drop_succ on.left, on.calm, on.more, rfl, ⟨ls, tail, source⟩, ?_, ?_, ?_⟩, rfl⟩
    · simp [row_succ on.left, other, on.row]
    · simp [column_succ on.left, other, on.column]
    · simp only
      omega

/-- The look-ahead moves to the next byte. -/
theorem On.advance (on : On bytes i b rest s) :
    At bytes (i + 1) s.advance ∧ s.advance.diagnostics = s.diagnostics := by
  by_cases none : s.ahead = []
  · exact on.advance_nil none
  · obtain ⟨b', rest', -, on', quiet⟩ := on.advance_cons none
    exact ⟨.on on', quiet⟩

/-- What is left of the current line makes no difference to leaving it. -/
theorem take_fetch_restart (calm : s.interrupted = false) (more : s.more = true)
    (look : Option UInt8) (ahead : List UInt8) (cursor : Nat) (ls : List (List UInt8)) :
    (({ s with look, ahead, cursor } : Lexer).fetch (ls.map .data)).take =
      (s.fetch (ls.map .data)).take := by
  induction ls with
  | nil => simp [fetch, take, calm]
  | cons l ls ih =>
    cases l with
    | nil => simpa [fetch] using ih
    | cons b a => simp [fetch, take, calm, more]

theorem On.skipLine_advance (on : On bytes i b rest s) (some' : s.ahead ≠ []) :
    s.advance.skipLine = s.skipLine := by
  obtain ⟨ls, -, source⟩ := on.lines
  cases ahead : s.ahead with
  | nil => exact absurd ahead some'
  | cons b' a =>
    let moved : Lexer := { s with look := some b', ahead := a, cursor := s.cursor + 1 }
    have eq : s.advance = moved := by
      simp [moved, Lexer.advance, take, ahead, on.calm, on.more]
    have run : moved.running = true := on.running
    rw [eq, skipLine, skipLine, refill, refill, if_pos run, if_pos on.running]
    have restart := take_fetch_restart on.calm on.more (some b') a (s.cursor + 1) ls
    rw [← source] at restart
    exact restart

/-- At the end of a line, moving on leaves it. -/
theorem On.skipLine_nil (on : On bytes i b rest s) (none : s.ahead = []) :
    At bytes (i + lineLength (b :: rest)) s.skipLine ∧ s.skipLine.diagnostics = s.diagnostics := by
  have one : lineLength (b :: rest) = 1 := by
    rcases on.ahead_eq_nil.mp none with rfl | rfl
    · rfl
    · unfold lineLength
      split <;> rfl
  have same : s.advance = s.skipLine := by simp [Lexer.advance, none, Lexer.skipLine]
  rw [one, ← same]
  exact on.advance

/-- The look-ahead moves behind the next newline. -/
theorem On.skipLine (on : On bytes i b rest s) :
    At bytes (i + lineLength (b :: rest)) s.skipLine ∧ s.skipLine.diagnostics = s.diagnostics := by
  induction rest generalizing i b s with
  | nil => exact on.skipLine_nil (on.ahead_eq_nil.mpr (.inr rfl))
  | cons b' rest ih =>
    by_cases newline : b = 10
    · exact on.skipLine_nil (on.ahead_eq_nil.mpr (.inl newline))
    · have more : s.ahead ≠ [] := by
        rw [ne_eq, on.ahead_eq_nil]
        simp [newline]
      obtain ⟨x, xs, same, on', quiet⟩ := on.advance_cons more
      cases same
      obtain ⟨far, quiet'⟩ := ih on'
      rw [on.skipLine_advance more] at far quiet'
      rw [lineLength, if_neg newline, ← Nat.add_assoc]
      exact ⟨far, quiet'.trans quiet⟩

end Lexer

end RouteScript
