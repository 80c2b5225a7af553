import RouteScript.Proofs.Lexer.LockStep

/-!
Where a script is cut makes no difference.

Words, numbers, literals and the bytes of a character may go on in the next chunk, and empty
chunks may stand anywhere. Two things depend on the cut: a comment ends with its chunk, and so does
a backslash that has no byte behind it in its chunk. Without comments, and if no cut parts a
backslash from the next byte (`EscapesKept`), the words of a script and the kinds of the notes on
it are those of its bytes (`scan?_of_flatten_eq`).

A lexer has used up its chunk or it has not, but it always looks at the next of the bytes that are
left (`Moved`). So lexers with the same bytes before them move in step (`lockStep_alongside`).
-/

namespace RouteScript

/-- The kind of a diagnostic, whatever it is about and wherever it stands. -/
def Diagnostic.kind (d : Diagnostic) : Nat := d.ctorIdx

theorem Diagnostic.Matches.kind_eq {α : Type} {view : Position → α} {d e : Diagnostic}
    (same : d.Matches view e) : e.kind = d.kind := by
  cases same <;> rfl

/-- A chunk that ends in a backslash has only empty chunks behind it. -/
def EscapesKept (cs : List (List UInt8)) : Prop :=
  cs.Pairwise fun c later => c.getLast? = some 92 → later = []

instance (cs : List (List UInt8)) : Decidable (EscapesKept cs) :=
  inferInstanceAs (Decidable (List.Pairwise _ _))

/-- What is left of chunks of data are chunks of data. -/
theorem Chunk.eq_map_of_suffix {chunks : List Chunk} {cs : List (List UInt8)}
    (left : chunks <:+ cs.map .data) : ∃ ds, chunks = ds.map .data ∧ ds <:+ cs := by
  rw [List.suffix_iff_eq_drop, ← List.map_drop] at left
  exact ⟨_, left, List.drop_suffix ..⟩

theorem Chunk.eq_map_of_suffix_cons {bytes : List UInt8} {chunks : List Chunk}
    {cs : List (List UInt8)} (here : .data bytes :: chunks <:+ cs.map .data) :
    ∃ ds, chunks = ds.map .data ∧ bytes :: ds <:+ cs := by
  obtain ⟨ds, eq, left⟩ := eq_map_of_suffix here
  obtain ⟨c, later, rfl, data, rfl⟩ := List.map_eq_cons_iff.mp eq.symm
  cases data
  exact ⟨later, rfl, left⟩

namespace Lexer

variable {s t : Lexer}

/-- The bytes behind the look-ahead. -/
def unread (s : Lexer) : List UInt8 := if s.more then s.ahead ++ Chunk.flat s.source else []

/-- A lexer whose chunks are data and keep escapes together. -/
structure Fed (s : Lexer) : Prop where
  calm : s.interrupted = false
  stands : Stands s
  source : ∃ cs : List (List UInt8), s.source = cs.map .data ∧ EscapesKept (s.line :: cs)

/-- One step over the bytes that `s` has before it. -/
structure Moved (s t : Lexer) : Prop where
  fed : Fed t
  look : t.look = s.unread.head?
  more : t.more = !s.unread.isEmpty
  unread : t.unread = s.unread.tail
  quiet : t.diagnostics = s.diagnostics

namespace Fed

theorem running (fed : Fed s) : s.running = s.more := by simp [Lexer.running, fed.calm]

theorem note (fed : Fed s) (d : Diagnostics) : Fed { s with diagnostics := d } :=
  ⟨fed.calm, fed.stands.note d, fed.source⟩

/-! ### Moves -/

/-- The bytes go on in the next chunk. -/
theorem skipLine (fed : Fed s) (used : s.more = true → s.ahead = []) : Moved s s.skipLine := by
  have stands := fed.stands.skipLine
  obtain ⟨cs, source, kept⟩ := fed.source
  have turned := skipLine_turned s
  generalize s.skipLine = t at stands turned ⊢
  cases turned with
  | @next b bytes rest run here flat =>
    have more : s.more = true := fed.running ▸ run
    have unread : s.unread = b :: (bytes ++ Chunk.flat rest) := by
      rw [Lexer.unread, if_pos more, used more, flat, List.nil_append]
    obtain ⟨ds, rfl, left⟩ := Chunk.eq_map_of_suffix_cons (source ▸ here)
    refine ⟨⟨fed.calm, stands, ds, rfl, ?_⟩, ?_, ?_, ?_, rfl⟩
    · exact (List.pairwise_cons.mp kept).2.sublist left.sublist
    · rw [unread, List.head?_cons]
    · rw [unread]
      exact more
    · rw [unread, Lexer.unread, if_pos more, List.tail_cons]
  | @ended rest d calm left flat notes =>
    have unread : s.unread = [] := by
      cases more : s.more with
      | true => rw [Lexer.unread, if_pos more, used more, flat more, List.nil_append]
      | false => rw [Lexer.unread, if_neg (by simp [more])]
    obtain ⟨ds, eq, behind⟩ := Chunk.eq_map_of_suffix (source ▸ left)
    refine ⟨⟨calm, stands, ds, eq, ?_⟩, ?_, ?_, ?_, ?_⟩
    · exact kept.sublist (behind.sublist.cons_cons s.line)
    · rw [unread, List.head?_nil]
    · rw [unread]
      rfl
    · rw [unread]
      rfl
    · exact notes.resolve_right fun failed => by simp [source] at failed
  | interrupted left broken => simp [fed.calm, source] at broken

theorem advance (fed : Fed s) : Moved s s.advance := by
  cases more : s.more with
  | false =>
    rw [advance_of_not_running (fed.running.trans more)]
    exact fed.skipLine (fun run => absurd run (by simp [more]))
  | true =>
    cases ahead : s.ahead with
    | nil =>
      rw [advance_of_nil ahead]
      exact fed.skipLine fun _ => ahead
    | cons b bytes =>
      have stands := fed.stands.advance
      rw [advance_of_cons (fed.running.trans more) ahead] at stands ⊢
      have unread : s.unread = b :: (bytes ++ Chunk.flat s.source) := by
        rw [Lexer.unread, if_pos more, ahead, List.cons_append]
      refine ⟨⟨fed.calm, stands, fed.source⟩, ?_, ?_, ?_, rfl⟩
      · rw [unread, List.head?_cons]
      · rw [unread]
        exact more
      · rw [unread, Lexer.unread, if_pos more, List.tail_cons]

/-- A backslash ends its chunk only if it ends the script. -/
theorem escape (fed : Fed s) (run : s.running = true) (look : s.look = some 92) :
    s.ahead.isEmpty = s.unread.isEmpty := by
  have more : s.more = true := fed.running ▸ run
  rw [unread, if_pos more]
  cases ahead : s.ahead with
  | cons b bytes => rfl
  | nil =>
    obtain ⟨taken, line, -, last, -⟩ := fed.stands.inside run
    obtain ⟨cs, source, kept⟩ := fed.source
    have ends : s.line.getLast? = some 92 := by
      rw [line, ahead, List.append_nil]
      cases taken with
      | nil => simp [look] at last
      | cons b taken => simpa [look, List.getLast?_cons, eq_comm] using last
    have blank : ∀ c ∈ cs, c = [] := fun c mem => (List.pairwise_cons.mp kept).1 c mem ends
    rw [source, Chunk.flat_map_data, List.flatten_eq_nil_iff.mpr blank]
    rfl

/-- At the start all bytes are left. -/
theorem start {cs : List (List UInt8)} (kept : EscapesKept cs) (d : Diagnostics) :
    Fed (start (cs.map .data) d) ∧
      (Lexer.start (cs.map .data) d).look = some 32 ∧
      (Lexer.start (cs.map .data) d).more = !cs.flatten.isEmpty ∧
      (Lexer.start (cs.map .data) d).unread = cs.flatten ∧
      (Lexer.start (cs.map .data) d).diagnostics = d := by
  have stands := Stands.start (cs.map .data) d
  have fetched := start_fetched (cs.map .data) d
  rw [← Chunk.flat_map_data]
  generalize Lexer.start (cs.map .data) d = t at stands fetched ⊢
  cases fetched with
  | @next b bytes rest here flat =>
    obtain ⟨ds, rfl, left⟩ := Chunk.eq_map_of_suffix_cons here
    refine ⟨⟨rfl, stands, ds, rfl, kept.sublist left.sublist⟩, rfl, ?_, ?_, rfl⟩
    · rw [flat]
      rfl
    · rw [flat]
      rfl
  | @ended rest e left flat notes =>
    obtain ⟨ds, rfl, behind⟩ := Chunk.eq_map_of_suffix left
    refine ⟨⟨rfl, stands, ds, rfl, List.pairwise_cons.mpr ⟨nofun, kept.sublist behind.sublist⟩⟩,
      rfl, ?_, ?_, ?_⟩
    · rw [flat]
      rfl
    · rw [flat]
      rfl
    · exact notes.resolve_right fun failed => by simp at failed
  | interrupted broken => simp at broken

end Fed

/-! ### Two lexers over the same bytes -/

/-- Lexers that look at the same byte and have the same bytes before them, none of which begins a
comment, and that have noted problems of the same kinds. -/
structure Alongside (s t : Lexer) : Prop where
  left : Fed s
  right : Fed t
  more : t.more = s.more
  look : t.look = s.look
  unread : t.unread = s.unread
  plain : s.look ≠ some 35 ∧ 35 ∉ s.unread
  kinds : t.diagnostics.entries.map Diagnostic.kind = s.diagnostics.entries.map Diagnostic.kind

namespace Alongside

theorem advance (h : Alongside s t) : Alongside s.advance t.advance := by
  have first := h.left.advance
  have second := h.right.advance
  refine ⟨first.fed, second.fed, ?_, ?_, ?_, ⟨?_, ?_⟩, ?_⟩
  · rw [first.more, second.more, h.unread]
  · rw [first.look, second.look, h.unread]
  · rw [first.unread, second.unread, h.unread]
  · rw [first.look]
    exact fun mark => h.plain.2 (List.mem_of_head? mark)
  · rw [first.unread]
    exact fun mem => h.plain.2 (List.mem_of_mem_tail mem)
  · rw [first.quiet, second.quiet, h.kinds]

/-- Both note something of the same kind. -/
theorem note (h : Alongside s t) {d e : Diagnostics}
    (kinds : e.entries.map Diagnostic.kind = d.entries.map Diagnostic.kind) :
    Alongside { s with diagnostics := d } { t with diagnostics := e } :=
  ⟨h.left.note d, h.right.note e, h.more, h.look, h.unread, h.plain, kinds⟩

end Alongside

theorem lockStep_alongside : LockStep (fun _ => ()) Alongside where
  more h := h.more
  interrupted h := h.right.calm.trans h.left.calm.symm
  look h := h.look
  place _ := rfl
  right _ := rfl
  escape {s t} h run look := by
    have run' : t.running = true := by rwa [h.right.running, h.more, ← h.left.running]
    rw [h.left.escape run look, h.right.escape run' (h.look.trans look), h.unread]
  advance h := h.advance
  skipLine h comment := absurd comment h.plain.1
  warn {s t d e} h same := by
    rw [warn_of_calm h.left.calm, warn_of_calm h.right.calm]
    exact h.note (by simp [Sink.pushWarning, h.kinds, same.kind_eq])
  fail {s t d e} h same := by
    rw [fail_of_calm h.left.calm, fail_of_calm h.right.calm]
    exact h.note (by simp [Sink.push, h.kinds, same.kind_eq])

/-- Scripts of the same bytes are made of the same words, and what is noted on them is of the same
kinds, if no byte begins a comment and no cut parts a backslash from the byte behind it. -/
theorem scan?_of_flatten_eq {cs ds : List (List UInt8)} (same : ds.flatten = cs.flatten)
    (plain : 35 ∉ cs.flatten) (kept : EscapesKept cs) (kept' : EscapesKept ds) (file : String) :
    ∃ tokens d tokens' d', scan? (cs.map .data) file = .ok (tokens, d) ∧
      scan? (ds.map .data) file = .ok (tokens', d') ∧
      tokens'.map Token.word = tokens.map Token.word ∧
      d'.entries.map Diagnostic.kind = d.entries.map Diagnostic.kind := by
  obtain ⟨fed, look, more, unread, notes⟩ := Fed.start kept { file }
  obtain ⟨fed', look', more', unread', notes'⟩ := Fed.start kept' { file }
  have begun : Alongside (start (cs.map .data) { file }) (start (ds.map .data) { file }) := by
    refine ⟨fed, fed', ?_, look'.trans look.symm, ?_, ⟨?_, ?_⟩, ?_⟩
    · rw [more, more', same]
    · rw [unread, unread', same]
    · rw [look]
      decide
    · rwa [unread]
    · rw [notes, notes']
  obtain ⟨seen, ended⟩ := lockStep_alongside.tokenize begun
  have words := congrArg (List.map fun seen => (seen.1, seen.2.1)) seen
  rw [List.map_map, List.map_map] at words
  exact ⟨_, _, _, _, scan?_eq (by simp) file, scan?_eq (by simp) file, words, ended.kinds⟩

/-- A word, a literal and a character of two bytes are cut in different places, one chunk is empty,
and the last one ends in a backslash. -/
theorem scan?_of_flatten_eq_cut :
    let cs : List (List UInt8) := [[112, 111], [115, 116, 32, 39, 195], [], [169, 92, 110, 92]]
    let ds : List (List UInt8) := [[112], [111, 115, 116, 32, 39], [195, 169, 92, 110], [92], []]
    ds.flatten = cs.flatten ∧ 35 ∉ cs.flatten ∧ EscapesKept cs ∧ EscapesKept ds ∧
      ∃ tokens d tokens' d', scan? (cs.map .data) "s" = .ok (tokens, d) ∧
        scan? (ds.map .data) "s" = .ok (tokens', d') ∧
        tokens'.map Token.word = tokens.map Token.word ∧
        d'.entries.map Diagnostic.kind = d.entries.map Diagnostic.kind := by
  intro cs ds
  have same : ds.flatten = cs.flatten := rfl
  have plain : 35 ∉ cs.flatten := by decide
  have kept : EscapesKept cs := by decide
  have kept' : EscapesKept ds := by decide
  exact ⟨same, plain, kept, kept', scan?_of_flatten_eq same plain kept kept' "s"⟩

end Lexer

end RouteScript
