import RouteScript.Proofs.Lexer.Invariants

/-!
How a lexer moves over its chunks.

Within a chunk the look-ahead goes to the next byte (`advance_of_cons`). Leaving a chunk, by
`advance` at its end or by `skipLine` anywhere, asks the source for more, and there are three
outcomes (`Turned`): the first byte of the next chunk that is not empty, the end of the input, or
an interruption.

While it runs, the look-ahead is the last byte that was taken of the current chunk, and the
cursor counts these bytes (`Stands`). Before the first byte the look-ahead is a blank.
-/

namespace RouteScript

/-- The bytes of an input, up to where it ends or breaks off. -/
def Chunk.flat : List Chunk → List UInt8
  | .data bytes :: rest => bytes ++ flat rest
  | _ => []

theorem Chunk.flat_map_data (cs : List (List UInt8)) : flat (cs.map .data) = cs.flatten := by
  induction cs with
  | nil => rfl
  | cons c cs ih => rw [List.map_cons, flat, ih, List.flatten_cons]

namespace Lexer

variable {s : Lexer}

theorem running_iff : s.running = true ↔ s.more = true ∧ s.interrupted = false := by
  simp [running]

theorem warn_of_calm (calm : s.interrupted = false) (d : Diagnostic) :
    s.warn d = { s with diagnostics := s.diagnostics.pushWarning d } :=
  if_neg (by simp [calm])

theorem fail_of_calm (calm : s.interrupted = false) (d : Diagnostic) :
    s.fail d = { s with diagnostics := s.diagnostics.push d } :=
  if_neg (by simp [calm])

/-! ### Asking for more -/

/-- What becomes of a lexer that asks `chunks` for more. -/
inductive Fetched (s : Lexer) (chunks : List Chunk) : Lexer → Prop where
  /-- The next chunk that is not empty is at hand. -/
  | next {b : UInt8} {bytes : List UInt8} {rest : List Chunk} :
      .data (b :: bytes) :: rest <:+ chunks → Chunk.flat chunks = b :: (bytes ++ Chunk.flat rest) →
      Fetched s chunks { s with
        source := rest, line := b :: bytes, ahead := b :: bytes, cursor := 0,
        lineNumber := s.lineNumber + 1 }
  /-- There is no more, which is noted if it is because of a failure. -/
  | ended {rest : List Chunk} {d : Diagnostics} :
      rest <:+ chunks → Chunk.flat chunks = [] →
      d = s.diagnostics ∨ .failure ∈ chunks ∧ d = s.diagnostics.push (.unreadableLine s.lineNumber) →
      Fetched s chunks { s with source := rest, more := false, diagnostics := d }
  | interrupted : .interrupt ∈ chunks → Fetched s chunks { s with source := [], interrupted := true }

/-- Chunks without bytes make no difference. -/
theorem Fetched.cons {chunks : List Chunk} {t : Lexer} (fetched : Fetched s chunks t) :
    Fetched s (.data [] :: chunks) t := by
  cases fetched with
  | next here flat => exact .next (here.trans (List.suffix_cons ..)) flat
  | ended left flat notes =>
    exact .ended (left.trans (List.suffix_cons ..)) flat
      (notes.imp_right fun ⟨failed, eq⟩ => ⟨List.mem_cons_of_mem _ failed, eq⟩)
  | interrupted broken => exact .interrupted (List.mem_cons_of_mem _ broken)

theorem fetch_fetched (s : Lexer) (chunks : List Chunk) : Fetched s chunks (s.fetch chunks) := by
  induction chunks with
  | nil => exact .ended (List.suffix_refl _) rfl (.inl rfl)
  | cons chunk rest ih =>
    match chunk with
    | .data [] => exact ih.cons
    | .data (b :: bytes) => exact .next (List.suffix_refl _) rfl
    | .failure => exact .ended (List.suffix_cons ..) rfl (.inr ⟨List.mem_cons_self, rfl⟩)
    | .interrupt => exact .interrupted List.mem_cons_self

theorem start_fetched (chunks : List Chunk) (d : Diagnostics) :
    Fetched { source := chunks, diagnostics := d } chunks (start chunks d) :=
  fetch_fetched { source := chunks, diagnostics := d } chunks

/-! ### Single moves -/

/-- What becomes of a lexer that leaves its chunk, or has none to leave. -/
inductive Turned (s : Lexer) : Lexer → Prop where
  /-- It looks at the first byte of the next chunk that is not empty. -/
  | next {b : UInt8} {bytes : List UInt8} {rest : List Chunk} :
      s.running = true → .data (b :: bytes) :: rest <:+ s.source →
      Chunk.flat s.source = b :: (bytes ++ Chunk.flat rest) →
      Turned s { s with
        source := rest, line := b :: bytes, ahead := bytes, cursor := 1,
        lineNumber := s.lineNumber + 1, look := some b }
  /-- It stands at the end. -/
  | ended {rest : List Chunk} {d : Diagnostics} :
      s.interrupted = false → rest <:+ s.source → (s.more = true → Chunk.flat s.source = []) →
      d = s.diagnostics ∨
        .failure ∈ s.source ∧ d = s.diagnostics.push (.unreadableLine s.lineNumber) →
      Turned s { s with
        source := rest, more := false, diagnostics := d, look := none, ahead := [],
        cursor := s.line.length + 1 }
  /-- It stays where it is. -/
  | interrupted {rest : List Chunk} :
      rest <:+ s.source → s.interrupted = true ∨ .interrupt ∈ s.source →
      Turned s { s with source := rest, interrupted := true }

theorem skipLine_turned (s : Lexer) : Turned s s.skipLine := by
  obtain ⟨source, line, ahead, cursor, lineNumber, look, more, interrupted, diagnostics⟩ := s
  cases interrupted with
  | true => cases more <;> exact .interrupted (List.suffix_refl _) (.inl rfl)
  | false =>
    cases more with
    | true =>
      let s : Lexer :=
        ⟨source, line, ahead, cursor, lineNumber, look, true, false, diagnostics⟩
      have fetched := fetch_fetched s source
      change Turned s (s.fetch source).take
      generalize s.fetch source = t at fetched ⊢
      cases fetched with
      | next here flat => exact .next rfl here flat
      | ended left flat notes => exact .ended rfl left (fun _ => flat) notes
      | interrupted broken => exact .interrupted List.nil_suffix (.inr broken)
    | false => exact .ended rfl (List.suffix_refl _) nofun (.inl rfl)

theorem advance_of_nil (none : s.ahead = []) : s.advance = s.skipLine := by
  simp [advance, none, skipLine]

theorem advance_of_cons (run : s.running = true) {b : UInt8} {bytes : List UInt8}
    (some' : s.ahead = b :: bytes) :
    s.advance = { s with look := some b, ahead := bytes, cursor := s.cursor + 1 } := by
  have facts := running_iff.mp run
  simp [advance, take, some', facts]

theorem advance_of_not_running (halt : s.running = false) : s.advance = s.skipLine := by
  cases ahead : s.ahead with
  | nil => exact advance_of_nil ahead
  | cons b bytes => simp [advance, skipLine, refill, ahead, halt]

/-- A property is kept by `advance` if it is kept within a chunk and by leaving one. -/
theorem advance_induction {P : Lexer → Prop} (s : Lexer)
    (within : ∀ b bytes, s.running = true → s.ahead = b :: bytes →
      P { s with look := some b, ahead := bytes, cursor := s.cursor + 1 })
    (turned : P s.skipLine) : P s.advance := by
  cases run : s.running with
  | true =>
    cases ahead : s.ahead with
    | nil => exact advance_of_nil ahead ▸ turned
    | cons b bytes => exact advance_of_cons run ahead ▸ within b bytes run ahead
  | false => exact advance_of_not_running run ▸ turned

/-! ### Single tokens -/

/-- What one step of the main loop does, by the byte that the lexer looks at. -/
inductive Stepped (s : Lexer) : Option Token × Lexer → Prop where
  /-- The byte starts no token. -/
  | passed : s.look ≠ some 34 → s.look ≠ some 39 → Stepped s (none, s.advance)
  | comment : s.look = some 35 → Stepped s (none, s.skipLine)
  | symbol {b : UInt8} {kind : TokenKind} {text : String} :
      s.look = some b → b = 61 ∨ b = 43 ∨ b = 63 → kind ≠ .string →
      Stepped s (some (s.takeSymbol kind text).1, (s.takeSymbol kind text).2)
  | string {b : UInt8} : s.look = some b → b = 34 ∨ b = 39 →
      Stepped s (some s.readString.1, s.readString.2)
  | word {b : UInt8} : s.look = some b → isLetter b = true →
      Stepped s (some s.readWord.1, s.readWord.2)
  | number {b : UInt8} : s.look = some b → isDigit b = true →
      Stepped s (some s.readNumber.1, s.readNumber.2)

theorem readToken?_stepped (s : Lexer) : Stepped s s.readToken? := by
  cases look : s.look with
  | none =>
    simp only [readToken?, look]
    exact .passed (by simp [look]) (by simp [look])
  | some b =>
    simp only [readToken?, look]
    split
    · next comment => exact .comment (comment ▸ look)
    repeat' split
    · next equals => exact .symbol look (.inl equals) (by decide)
    · next plus => exact .symbol look (.inr (.inl plus)) (by decide)
    · next question => exact .symbol look (.inr (.inr question)) (by decide)
    · next mark => exact .string look mark
    · next letter => exact .word look letter
    · next digit => exact .number look digit
    · next other _ _ =>
      rw [not_or] at other
      exact .passed (by simpa [look] using other.1) (by simpa [look] using other.2)

/-! ### Standing in a chunk -/

/-- A running lexer looks at the last of the bytes that it took of its chunk, and its cursor
counts them. A lexer at the end may stand one column behind its chunk. -/
structure Stands (s : Lexer) : Prop where
  inside : s.running = true → ∃ taken, s.line = taken ++ s.ahead ∧ s.cursor = taken.length ∧
    s.look = some (taken.getLastD 32) ∧ 1 ≤ s.lineNumber
  behind : s.cursor ≤ s.line.length + 1

/-- All that a lexer that does not run has to keep is its cursor near its chunk. -/
theorem Stands.of_not_running (halt : s.running = false) (behind : s.cursor ≤ s.line.length + 1) :
    Stands s := by
  refine ⟨?_, behind⟩
  intro run
  rw [halt] at run
  cases run

theorem Stands.start (chunks : List Chunk) (d : Diagnostics) : Stands (start chunks d) := by
  have fetched := start_fetched chunks d
  generalize Lexer.start chunks d = t at fetched ⊢
  cases fetched with
  | next here flat => exact ⟨fun _ => ⟨[], rfl, rfl, rfl, Nat.le_add_left 1 _⟩, Nat.zero_le _⟩
  | ended left flat notes => exact .of_not_running rfl (Nat.zero_le _)
  | interrupted broken => exact .of_not_running rfl (Nat.zero_le _)

theorem Stands.skipLine (stands : Stands s) : Stands s.skipLine := by
  have turned := skipLine_turned s
  generalize s.skipLine = t at turned ⊢
  cases turned with
  | @next b bytes rest run here flat =>
    exact ⟨fun _ => ⟨[b], rfl, rfl, rfl, Nat.le_add_left 1 _⟩, Nat.le_add_left 1 _⟩
  | ended calm left flat notes => exact .of_not_running rfl (Nat.le_refl _)
  | interrupted left broken => exact .of_not_running (Bool.and_false _) stands.behind

theorem Stands.advance (stands : Stands s) : Stands s.advance := by
  apply advance_induction s
  case within =>
    intro b bytes run ahead
    obtain ⟨taken, line, cursor, -, row⟩ := stands.inside run
    refine ⟨fun _ => ⟨taken ++ [b], ?_, ?_, ?_, row⟩, ?_⟩
    · simp [line, ahead]
    · simp [cursor]
    · simp
    · simp only [line, ahead, cursor, List.length_append, List.length_cons]
      omega
  case turned => exact stands.skipLine

theorem Stands.note (stands : Stands s) (d : Diagnostics) : Stands { s with diagnostics := d } :=
  ⟨stands.inside, stands.behind⟩

theorem invariant_stands : Invariant Stands :=
  .of_moves Stands.advance Stands.skipLine fun stands => stands.note _

end Lexer

end RouteScript
