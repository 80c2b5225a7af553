import RouteScript.Proofs.Lexer.Moves
import Mathlib.Logic.Function.Iterate

/-!
A lexer sees every byte of its input once, and tells where.

Of the chunks only those with bytes count (`Chunk.filled`). A lexer that took `n` bytes stands
within one of them, or behind the last (`Reached`), and `advance` takes the next byte
(`Reached.advance`). So the look-ahead runs over the bytes of the input in order, with the chunk
and the place in it as its position, and then stays behind the last chunk
(`advance_enumerates`).

The same theorem says where a lexer stands after any calls of the readers in any order. A lexer
that moved looks at the byte in front of its cursor (`Looks`). Words and numbers are the only
calls that do not move a lexer at the start, which looks at a blank.
-/

namespace RouteScript

namespace Chunk

/-- The chunks that hold bytes, up to where the input ends or breaks off. -/
def filled : List Chunk → List (List UInt8)
  | .data [] :: rest => filled rest
  | .data (b :: bytes) :: rest => (b :: bytes) :: filled rest
  | _ => []

theorem filled_map_data_append (cs : List (List UInt8)) (rest : List Chunk) :
    filled (cs.map .data ++ rest) = cs.filter (· ≠ []) ++ filled rest := by
  induction cs with
  | nil => rfl
  | cons c cs ih =>
    cases c with
    | nil => exact ih
    | cons b bytes => exact congrArg ((b :: bytes) :: ·) ih

theorem flatten_filter_ne_nil (cs : List (List UInt8)) :
    (cs.filter (· ≠ [])).flatten = cs.flatten := by
  induction cs with
  | nil => rfl
  | cons c cs ih =>
    cases c with
    | nil => exact ih
    | cons b bytes => exact congrArg ((b :: bytes) ++ ·) ih

end Chunk

namespace Lexer

variable {s : Lexer}

/-! ### What a lexer looks at -/

/-- A running lexer looks at the byte in front of its cursor. -/
def Looks (s : Lexer) : Prop :=
  s.running = true → 1 ≤ s.cursor ∧ s.cursor ≤ s.line.length ∧ s.look = s.line[s.cursor - 1]?

theorem looks_skipLine (s : Lexer) : Looks s.skipLine := by
  have turned := skipLine_turned s
  generalize s.skipLine = t at turned ⊢
  cases turned with
  | next => exact fun _ => ⟨Nat.le_refl 1, Nat.le_add_left 1 _, rfl⟩
  | ended => exact nofun
  | interrupted => exact fun run => absurd (running_iff.mp run).2 nofun

theorem Stands.looks_advance (stands : Stands s) : Looks s.advance := by
  apply advance_induction s
  case within =>
    intro b bytes run ahead _
    obtain ⟨taken, line, cursor, -, -⟩ := stands.inside run
    rw [ahead] at line
    refine ⟨Nat.le_add_left 1 _, ?_, ?_⟩
    · simp [line, cursor]
    · simp [line, cursor]
  case turned => exact looks_skipLine s

/-- Once a lexer moved it always looks at the byte in front of its cursor. -/
theorem invariant_looks : Invariant fun s => Stands s ∧ Looks s :=
  .of_moves (fun h => ⟨h.1.advance, h.1.looks_advance⟩)
    (fun h => ⟨h.1.skipLine, looks_skipLine _⟩) (fun h => ⟨h.1.note _, h.2⟩)

/-- Where `advance` finds no more it leaves the lexer one column behind its chunk. -/
theorem advance_ended (calm : s.advance.interrupted = false) (ended : s.advance.more = false) :
    s.advance.look = none ∧ s.advance.cursor = s.advance.line.length + 1 := by
  refine advance_induction (P := fun t => t.interrupted = false → t.more = false →
    t.look = none ∧ t.cursor = t.line.length + 1) s ?within ?turned calm ended
  case within =>
    intro b bytes run _ _ ended
    simp [(running_iff.mp run).1] at ended
  case turned =>
    have turned := skipLine_turned s
    generalize s.skipLine = t at turned ⊢
    intro calm ended
    cases turned with
    | next run => simp [(running_iff.mp run).1] at ended
    | ended => exact ⟨rfl, rfl⟩
    | interrupted => cases calm

/-! ### One byte after the other -/

theorem fetch_of_filled_nil (s : Lexer) {chunks : List Chunk} (whole : .interrupt ∉ chunks)
    (none : Chunk.filled chunks = []) :
    ∃ rest d, s.fetch chunks = { s with source := rest, more := false, diagnostics := d } := by
  induction chunks with
  | nil => exact ⟨[], s.diagnostics, rfl⟩
  | cons chunk chunks ih =>
    match chunk with
    | .data [] => exact ih (fun mem => whole (List.mem_cons_of_mem _ mem)) none
    | .data (b :: bytes) => cases none
    | .failure => exact ⟨chunks, _, rfl⟩
    | .interrupt => exact absurd List.mem_cons_self whole

theorem fetch_of_filled_cons (s : Lexer) {chunks : List Chunk} {c : List UInt8}
    {cs : List (List UInt8)} (next : Chunk.filled chunks = c :: cs) :
    ∃ rest b bytes, Chunk.filled rest = cs ∧ s.fetch chunks = { s with
      source := rest, line := c, ahead := b :: bytes, cursor := 0,
      lineNumber := s.lineNumber + 1 } := by
  induction chunks with
  | nil => cases next
  | cons chunk chunks ih =>
    match chunk with
    | .data [] => exact ih next
    | .data (b :: bytes) =>
      obtain ⟨rfl, rfl⟩ := List.cons.inj next
      exact ⟨chunks, b, bytes, rfl, rfl⟩
    | .failure | .interrupt => cases next

theorem skipLine_of_filled_nil (run : s.running = true) (whole : .interrupt ∉ s.source)
    (none : Chunk.filled s.source = []) :
    ∃ rest d, s.skipLine = { s with
      source := rest, more := false, diagnostics := d, look := Option.none, ahead := [],
      cursor := s.line.length + 1 } := by
  obtain ⟨rest, d, fetched⟩ := fetch_of_filled_nil s whole none
  refine ⟨rest, d, ?_⟩
  rw [skipLine, refill, if_pos run, fetched, take, if_neg (by simp [(running_iff.mp run).2]),
    if_neg Bool.false_ne_true]

theorem skipLine_of_filled_cons (run : s.running = true) {c : List UInt8} {cs : List (List UInt8)}
    (next : Chunk.filled s.source = c :: cs) :
    ∃ rest ahead look, Chunk.filled rest = cs ∧ s.skipLine = { s with
      source := rest, line := c, ahead, cursor := 1, lineNumber := s.lineNumber + 1, look } := by
  obtain ⟨rest, b, bytes, left, fetched⟩ := fetch_of_filled_cons s next
  obtain ⟨more, calm⟩ := running_iff.mp run
  refine ⟨rest, bytes, some b, left, ?_⟩
  rw [skipLine, refill, if_pos run, fetched, take, if_neg (by simp [calm]), if_pos more]

/-- Where a lexer stands that took `n` bytes of the chunks `cs`. -/
inductive Reached (cs : List (List UInt8)) (n : Nat) (s : Lexer) : Prop where
  | within (before : List (List UInt8)) : s.more = true →
      cs = before ++ s.line :: Chunk.filled s.source → s.lineNumber = before.length + 1 →
      n = before.flatten.length + s.cursor → Reached cs n s
  | behind : cs.flatten.length < n ∨ cs = [] → s.more = false → s.line = cs.getLastD [] →
      s.lineNumber = cs.length → Reached cs n s

theorem Reached.start {chunks : List Chunk} (whole : .interrupt ∉ chunks) (d : Diagnostics) :
    Reached (Chunk.filled chunks) 0 (start chunks d) := by
  let s : Lexer := { source := chunks, diagnostics := d }
  change Reached _ 0 (s.fetch chunks)
  cases filled : Chunk.filled chunks with
  | nil =>
    obtain ⟨rest, d', fetched⟩ := fetch_of_filled_nil s whole filled
    rw [fetched]
    exact .behind (.inr rfl) rfl rfl rfl
  | cons c cs =>
    obtain ⟨rest, b, bytes, rfl, fetched⟩ := fetch_of_filled_cons s filled
    rw [fetched]
    exact .within [] rfl rfl rfl rfl

/-- A step to the next byte, which may stand in the next chunk. -/
theorem Reached.advance {cs : List (List UInt8)} {n : Nat} (stands : Stands s) (calm : Calm s)
    (reached : Reached cs n s) : Reached cs (n + 1) s.advance := by
  cases reached with
  | within before more place row count =>
    have run : s.running = true := running_iff.mpr ⟨more, calm.1⟩
    cases ahead : s.ahead with
    | cons b bytes =>
      rw [advance_of_cons run ahead]
      exact .within before more place row (congrArg (· + 1) count)
    | nil =>
      -- The chunk is used up, so the bytes taken are those of all chunks up to it.
      obtain ⟨taken, line, cursor, -, -⟩ := stands.inside run
      rw [ahead, List.append_nil] at line
      have used : n = (before ++ [s.line]).flatten.length := by simp [count, line, cursor]
      rw [advance_of_nil ahead]
      cases filled : Chunk.filled s.source with
      | nil =>
        obtain ⟨rest, d, turned⟩ := skipLine_of_filled_nil run calm.2 filled
        rw [filled] at place
        rw [turned]
        refine .behind (.inl ?_) rfl ?_ ?_
        · rw [used, place]
          exact Nat.lt_succ_self _
        · simp [place]
        · simp [place, row]
      | cons c cs =>
        obtain ⟨rest, bytes, look, rfl, turned⟩ := skipLine_of_filled_cons run filled
        rw [filled] at place
        rw [turned]
        refine .within (before ++ [s.line]) more ?_ ?_ (congrArg (· + 1) used)
        · simp [place]
        · simp [row]
  | behind past halt line row =>
    have idle : s.running = false := by simp [running, halt]
    rw [advance_of_not_running idle, skipLine, refill, if_neg (by simp [idle]), take,
      if_neg (by simp [calm.1]), if_neg (by simp [halt])]
    exact .behind (past.imp_left Nat.lt_succ_of_lt) halt line row

theorem reached_iterate {chunks : List Chunk} (whole : .interrupt ∉ chunks) (d : Diagnostics)
    (n : Nat) : let s := Lexer.advance^[n] (start chunks d)
    (Stands s ∧ Calm s) ∧ Reached (Chunk.filled chunks) n s := by
  induction n with
  | zero => exact ⟨⟨.start chunks d, calm_start whole d⟩, .start whole d⟩
  | succ n ih =>
    obtain ⟨⟨stands, calm⟩, reached⟩ := ih
    rw [Function.iterate_succ_apply']
    exact ⟨(invariant_stands.and invariant_calm).advance ⟨stands, calm⟩,
      reached.advance stands calm⟩

/-- What `advance` leaves behind, however often it was made before. -/
theorem reached_succ {chunks : List Chunk} (whole : .interrupt ∉ chunks) (d : Diagnostics)
    (j : Nat) : let s := Lexer.advance^[j + 1] (start chunks d)
    Calm s ∧ Looks s ∧ Reached (Chunk.filled chunks) (j + 1) s ∧
      (s.more = false → s.look = none ∧ s.cursor = s.line.length + 1) := by
  obtain ⟨⟨stands, calm⟩, reached⟩ := reached_iterate whole d j
  have calm' := invariant_calm.advance calm
  rw [Function.iterate_succ_apply']
  exact ⟨calm', stands.looks_advance, reached.advance stands calm, advance_ended calm'.1⟩

/-- While bytes are left, the last one taken is under consideration, and the position tells its
chunk and its place there. -/
theorem Reached.seen {cs : List (List UInt8)} {j : Nat} (reached : Reached cs (j + 1) s)
    (calm : Calm s) (looks : Looks s) (left : j < cs.flatten.length) :
    s.more = true ∧ s.look = cs.flatten[j]? ∧ ∃ before after,
      cs = before ++ s.line :: after ∧ s.lineNumber = before.length + 1 ∧
      1 ≤ s.cursor ∧ s.cursor ≤ s.line.length ∧ before.flatten.length + s.cursor = j + 1 := by
  cases reached with
  | within before more place row count =>
    obtain ⟨low, high, look⟩ := looks (running_iff.mpr ⟨more, calm.1⟩)
    refine ⟨more, ?_, before, _, place, row, low, high, count.symm⟩
    have index : j = before.flatten.length + (s.cursor - 1) := by omega
    have inside : s.cursor - 1 < s.line.length := by omega
    rw [look, place, List.flatten_append, List.flatten_cons, index,
      List.getElem?_append_right (Nat.le_add_right ..), Nat.add_sub_cancel_left,
      List.getElem?_append_left inside]
  | behind past =>
    rcases past with past | rfl
    · omega
    · cases left

/-- When no byte is left the lexer stays at the last chunk. -/
theorem Reached.passed {cs : List (List UInt8)} {j : Nat} (reached : Reached cs (j + 1) s)
    (calm : Calm s) (looks : Looks s) (none : cs.flatten.length ≤ j) :
    s.more = false ∧ s.line = cs.getLastD [] ∧ s.lineNumber = cs.length := by
  cases reached with
  | within before more place row count =>
    obtain ⟨-, high, -⟩ := looks (running_iff.mpr ⟨more, calm.1⟩)
    rw [place, List.flatten_append, List.flatten_cons, List.length_append,
      List.length_append] at none
    omega
  | behind _ halt line row => exact ⟨halt, line, row⟩

/-! ### Calls in any order -/

/-- What can be asked of a lexer. -/
inductive Call where
  | advance
  | skipSpace
  | skipLine
  | readString
  | readWord
  | readNumber
  | readChar (kind : TokenKind)
  deriving DecidableEq, Repr

/-- What becomes of the lexer; one that refuses a byte stays as it is. -/
def Call.run : Call → Lexer → Lexer
  | .advance, s => s.advance
  | .skipSpace, s => s.skipSpace
  | .skipLine, s => s.skipLine
  | .readString, s => s.readString.2
  | .readWord, s => s.readWord.2
  | .readNumber, s => s.readNumber.2
  | .readChar kind, s => ((s.readChar kind).toOption.map Prod.snd).getD s

/-- Whether the call takes a byte of a lexer at the start, if there is one. -/
def Call.moves : Call → Bool
  | .readWord | .readNumber => false
  | _ => true

theorem run_readChar (kind : TokenKind) (s : Lexer) :
    (Call.readChar kind).run s = s.advance ∨ (Call.readChar kind).run s = s := by
  cases look : s.look with
  | none => exact .inl (by simp only [Call.run, readChar, look]; rfl)
  | some b =>
    by_cases ascii : b < 128
    · exact .inl (by simp only [Call.run, readChar, look, if_pos ascii]; rfl)
    · exact .inr (by simp only [Call.run, readChar, look, if_neg ascii]; rfl)

theorem run_preserves {P : Lexer → Prop} (keeps : Invariant P) (c : Call) (h : P s) :
    P (c.run s) := by
  cases c with
  | advance => exact keeps.advance h
  | skipLine => exact keeps.skipLine h
  | readString => exact keeps.readString h
  | skipSpace | readWord | readNumber => exact keeps.takeRun _ [] h
  | readChar kind =>
    rcases run_readChar kind s with moved | refused
    · rw [moved]
      exact keeps.advance h
    · rw [refused]
      exact h

/-! A lexer at the start looks at a blank. -/

section Blank

variable (blank : s.look = some 32)

include blank

theorem takeRun_of_blank {accept : UInt8 → Bool} (other : accept 32 = false) :
    (takeRun accept s []).2 = s := by
  by_cases run : s.running = true
  · rw [takeRun_refused run blank (by simp [other])]
  · rw [takeRun_of_not_running run]

theorem looks_skipSpace_of_blank (stands : Stands s) : Stands s.skipSpace ∧ Looks s.skipSpace := by
  by_cases run : s.running = true
  · rw [skipSpace, takeRun_accepted run blank (by decide)]
    exact invariant_looks.takeRun isSpace [32] ⟨stands.advance, stands.looks_advance⟩
  · rw [skipSpace, takeRun_of_not_running run]
    exact ⟨stands, fun going => absurd going run⟩

theorem run_of_blank {c : Call} (still : c.moves = false) : c.run s = s := by
  cases c with
  | readWord => exact takeRun_of_blank blank (by decide)
  | readNumber => exact takeRun_of_blank blank (by decide)
  | _ => cases still

theorem looks_run_of_blank {c : Call} (moves : c.moves = true) (stands : Stands s) :
    Stands (c.run s) ∧ Looks (c.run s) := by
  have advanced : Stands s.advance ∧ Looks s.advance := ⟨stands.advance, stands.looks_advance⟩
  cases c with
  | advance => exact advanced
  | skipSpace => exact looks_skipSpace_of_blank blank stands
  | skipLine => exact ⟨stands.skipLine, looks_skipLine s⟩
  | readString => exact invariant_looks.readString_of_advance advanced
  | readWord | readNumber => cases moves
  | readChar kind =>
    have taken : (Call.readChar kind).run s = s.advance := by
      simp only [Call.run, readChar, blank]
      rfl
    rw [taken]
    exact advanced

end Blank

/-- What becomes of a lexer by calls in a row. -/
def afterCalls (calls : List Call) (s : Lexer) : Lexer := calls.foldl (fun s c => c.run s) s

theorem afterCalls_preserves {P : Lexer → Prop} (keeps : Invariant P) (calls : List Call)
    (h : P s) : P (afterCalls calls s) := by
  induction calls generalizing s with
  | nil => exact h
  | cons c calls ih => exact ih (run_preserves keeps c h)

section Blank

variable (blank : s.look = some 32)

include blank

theorem afterCalls_of_blank {calls : List Call} (still : calls.any Call.moves = false) :
    afterCalls calls s = s := by
  induction calls with
  | nil => rfl
  | cons c calls ih =>
    rw [List.any_cons, Bool.or_eq_false_iff] at still
    rw [afterCalls, List.foldl_cons, run_of_blank blank still.1]
    exact ih still.2

theorem looks_afterCalls {calls : List Call} (moved : calls.any Call.moves = true)
    (stands : Stands s) : Looks (afterCalls calls s) := by
  induction calls with
  | nil => cases moved
  | cons c calls ih =>
    rw [afterCalls, List.foldl_cons]
    cases moves : c.moves with
    | true =>
      exact (afterCalls_preserves invariant_looks calls (looks_run_of_blank blank moves stands)).2
    | false =>
      rw [List.any_cons, moves, Bool.false_or] at moved
      rw [run_of_blank blank moves]
      exact ih moved

end Blank

theorem look_start (chunks : List Chunk) (d : Diagnostics) : (start chunks d).look = some 32 := by
  have fetched := start_fetched chunks d
  generalize start chunks d = s at fetched ⊢
  cases fetched <;> rfl

/-! ### All bytes of an input -/

/-- The lexer takes the bytes of chunks `cs`, behind which the source may fail, one by one and
each with its place: the number of its chunk among those that are not empty, and the number of the
byte in it. Then it stays one column behind the last of these chunks.

Whatever calls are made, only words and numbers asked for at the start leave it there; else it
looks at the byte in front of its cursor, as long as there is more. -/
theorem advance_enumerates (cs : List (List UInt8)) (broken : Bool) (d : Diagnostics) :
    let fresh := start (cs.map .data ++ if broken then [.failure] else []) d
    let filled := cs.filter (· ≠ [])
    (∀ j, let s := Lexer.advance^[j + 1] fresh
      (j < cs.flatten.length → s.more = true ∧ s.look = cs.flatten[j]? ∧ ∃ before after,
        filled = before ++ s.line :: after ∧ s.lineNumber = before.length + 1 ∧
        1 ≤ s.cursor ∧ s.cursor ≤ s.line.length ∧ before.flatten.length + s.cursor = j + 1) ∧
      (cs.flatten.length ≤ j → s.more = false ∧ s.look = none ∧
        s.lineNumber = filled.length ∧ s.cursor = (filled.getLastD []).length + 1)) ∧
    ∀ calls, let s := afterCalls calls fresh
      (calls.any Call.moves = false → s = fresh) ∧
      (calls.any Call.moves = true → s.more = true →
        1 ≤ s.cursor ∧ s.cursor ≤ s.line.length ∧ s.look = s.line[s.cursor - 1]?) := by
  intro fresh filled
  have whole : .interrupt ∉ cs.map .data ++ if broken then [Chunk.failure] else [] := by
    cases broken <;> simp
  have chunks : Chunk.filled (cs.map .data ++ if broken then [.failure] else []) = filled := by
    rw [Chunk.filled_map_data_append]
    cases broken <;> exact List.append_nil _
  constructor
  · intro j s
    obtain ⟨calm, looks, reached, ended⟩ := reached_succ whole d j
    rw [chunks] at reached
    rw [← Chunk.flatten_filter_ne_nil cs]
    refine ⟨reached.seen calm looks, ?_⟩
    intro none
    obtain ⟨halt, line, row⟩ := reached.passed calm looks none
    obtain ⟨look, column⟩ := ended halt
    exact ⟨halt, look, row, line ▸ column⟩
  · intro calls s
    refine ⟨fun still => afterCalls_of_blank (look_start ..) still, ?_⟩
    intro moved more
    have calm : Calm s := afterCalls_preserves invariant_calm calls (calm_start whole d)
    exact looks_afterCalls (look_start ..) moved (.start ..) (running_iff.mpr ⟨more, calm.1⟩)

/-- Empty chunks are not counted: the third byte is the first one of the second line. -/
example : let s := Lexer.advance^[3] <|
      start [.data [], .data [97, 10], .data [], .data [98], .failure] { file := "s" }
    (s.look, s.lineNumber, s.cursor) = (some 98, 2, 1) := by decide

end Lexer

end RouteScript
