import RouteScript.Diagnostic.Sink
import RouteScript.Lexer.Chunk

/-!
The lexer's view of its input: one byte of look-ahead into the current chunk.

`advance` moves the look-ahead one byte forward and fetches the next chunk when
the current one is used up; `refill` drops what is left of a chunk and fetches
the next. Empty chunks are passed over and not counted as lines. Once the input
is exhausted `more` is false for good, the look-ahead is empty, and the position
stays just past the last chunk. What follows a failure is left unread.

An interrupted lexer does nothing until `settle` has reported the interruption;
what it did before stands.

`weight` bounds the steps that remain: every step of a running lexer lowers it
(`weight_advance_lt`, `weight_skipLine_lt`).
-/

namespace RouteScript

/-- A lexer between two steps. -/
structure Lexer where
  /-- The chunks that were not yet fetched. -/
  source : List Chunk
  /-- The current chunk. -/
  line : List UInt8 := []
  /-- What of the current chunk lies behind the look-ahead. -/
  ahead : List UInt8 := []
  /-- How many bytes of the current chunk were taken. -/
  cursor : Nat := 0
  /-- How many chunks were fetched. -/
  lineNumber : Nat := 0
  /-- The byte under consideration; a blank before the first step. -/
  look : Option UInt8 := some 32
  /-- Whether there is input under consideration or still to come. -/
  more : Bool := true
  /-- Whether the source broke off during the operation under way. -/
  interrupted : Bool := false
  diagnostics : Diagnostics
  deriving DecidableEq, Repr

namespace Lexer

/-- A running lexer has input and was not interrupted. -/
def running (s : Lexer) : Bool := s.more && !s.interrupted

/-- The position of the look-ahead. -/
def pos (s : Lexer) : Position := ⟨s.lineNumber, s.cursor⟩

/-- Records an error. -/
def fail (s : Lexer) (d : Diagnostic) : Lexer :=
  if s.interrupted then s else { s with diagnostics := s.diagnostics.push d }

/-- Records a warning. -/
def warn (s : Lexer) (d : Diagnostic) : Lexer :=
  if s.interrupted then s else { s with diagnostics := s.diagnostics.pushWarning d }

/-- Makes the first chunk that is not empty the current one. -/
def fetch (s : Lexer) : List Chunk → Lexer
  | [] => { s with source := [], more := false }
  | .data [] :: rest => fetch s rest
  | .data (b :: bytes) :: rest =>
    { s with
      source := rest, line := b :: bytes, ahead := b :: bytes, cursor := 0,
      lineNumber := s.lineNumber + 1 }
  | .failure :: rest =>
    { s with
      source := rest, more := false,
      diagnostics := s.diagnostics.push (.unreadableLine s.lineNumber) }
  | .interrupt :: _ => { s with source := [], interrupted := true }

/-- Leaves the current chunk for the next one. -/
def refill (s : Lexer) : Lexer := if s.running then s.fetch s.source else s

/-- Takes the next byte of the current chunk; without input there is none. -/
def take (s : Lexer) : Lexer :=
  if s.interrupted then s
  else if s.more then
    match s.ahead with
    | b :: bytes => { s with look := some b, ahead := bytes, cursor := s.cursor + 1 }
    | [] => s
  else { s with look := none, ahead := [], cursor := s.line.length + 1 }

/-- Moves the look-ahead one byte forward. -/
def advance (s : Lexer) : Lexer := if s.ahead.isEmpty then s.refill.take else s.take

/-- Moves the look-ahead to the first byte of the next chunk. -/
def skipLine (s : Lexer) : Lexer := s.refill.take

/-- A lexer at the start of its input, the first chunk already fetched. -/
def start (chunks : List Chunk) (diagnostics : Diagnostics) : Lexer :=
  refill { source := chunks, diagnostics }

/-- Clears an interruption and tells whether there was one. -/
def settle (s : Lexer) : Bool × Lexer := (s.interrupted, { s with interrupted := false })

/-! ### How many steps remain -/

/-- A bound on the steps that remain. -/
def weight (s : Lexer) : Nat :=
  s.ahead.length + Chunk.totalWeight s.source + if s.more then 1 else 0

@[simp] theorem weight_warn (s : Lexer) (d : Diagnostic) : (s.warn d).weight = s.weight := by
  unfold warn; split <;> rfl

@[simp] theorem weight_fail (s : Lexer) (d : Diagnostic) : (s.fail d).weight = s.weight := by
  unfold fail; split <;> rfl

@[simp] theorem running_warn (s : Lexer) (d : Diagnostic) : (s.warn d).running = s.running := by
  unfold warn; split <;> rfl

@[simp] theorem running_fail (s : Lexer) (d : Diagnostic) : (s.fail d).running = s.running := by
  unfold fail; split <;> rfl

theorem weight_take_le (s : Lexer) : s.take.weight ≤ s.weight := by
  unfold take
  split
  · exact Nat.le_refl _
  · split
    · split
      · next h => simp [weight, h]
      · exact Nat.le_refl _
    · simp [weight]

theorem weight_take_lt {s : Lexer} (run : s.running = true) (left : s.ahead ≠ []) :
    s.take.weight < s.weight := by
  cases h : s.ahead with
  | nil => exact absurd h left
  | cons b bytes =>
    have : s.more = true ∧ s.interrupted = false := by simpa [running] using run
    simp [take, weight, this, h]

/-- Fetching either yields something to take, at no cost, or lowers the bound. -/
theorem weight_fetch (s : Lexer) (live : s.running = true) (chunks : List Chunk) :
    ((s.fetch chunks).running = true ∧ (s.fetch chunks).ahead ≠ [] ∧
      (s.fetch chunks).weight ≤ Chunk.totalWeight chunks + 1) ∨
    ((s.fetch chunks).running = false ∧
      (s.fetch chunks).weight < s.ahead.length + Chunk.totalWeight chunks + 1) := by
  have facts : s.more = true ∧ s.interrupted = false := by simpa [running] using live
  induction chunks with
  | nil => exact .inr ⟨by simp [fetch, running], by simp [fetch, weight]⟩
  | cons chunk rest ih =>
    match chunk with
    | .data [] => simpa [fetch, Chunk.totalWeight, Chunk.weight] using ih
    | .data (b :: bytes) =>
      exact .inl ⟨by simpa [fetch, running] using live, by simp [fetch],
        by simp [fetch, weight, Chunk.totalWeight, Chunk.weight, facts]⟩
    | .failure =>
      have left : (s.fetch (.failure :: rest)).weight =
          s.ahead.length + Chunk.totalWeight rest := by
        simp [fetch, weight]
      have cost : Chunk.totalWeight (.failure :: rest) = 1 + Chunk.totalWeight rest := rfl
      exact .inr ⟨by simp [fetch, running], by omega⟩
    | .interrupt =>
      have left : (s.fetch (.interrupt :: rest)).weight = s.ahead.length + 1 := by
        simp [fetch, weight, Chunk.totalWeight, facts]
      have cost : Chunk.totalWeight (.interrupt :: rest) = 1 + Chunk.totalWeight rest := rfl
      exact .inr ⟨by simp [fetch, running], by omega⟩

/-- Passing on to the next chunk lowers the bound. -/
theorem weight_skipLine_lt {s : Lexer} (run : s.running = true) :
    s.skipLine.weight < s.weight := by
  have facts : s.more = true ∧ s.interrupted = false := by simpa [running] using run
  have whole : s.weight = s.ahead.length + Chunk.totalWeight s.source + 1 := by
    simp [weight, facts]
  unfold skipLine refill
  rw [if_pos run]
  rcases weight_fetch s run s.source with ⟨live, left, bound⟩ | ⟨-, bound⟩
  · have := weight_take_lt live left
    omega
  · have := weight_take_le (s.fetch s.source)
    omega

/-- A step of a running lexer lowers the bound. -/
theorem weight_advance_lt {s : Lexer} (run : s.running = true) :
    s.advance.weight < s.weight := by
  unfold advance
  split
  · exact weight_skipLine_lt run
  · next h => exact weight_take_lt run (by simpa using h)

theorem weight_advance_le (s : Lexer) : s.advance.weight ≤ s.weight := by
  cases run : s.running with
  | true => exact Nat.le_of_lt (weight_advance_lt run)
  | false =>
    unfold advance refill
    split <;> simp [run, weight_take_le]

end Lexer

end RouteScript
