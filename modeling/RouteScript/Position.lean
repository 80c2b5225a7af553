/-!
Places in a script.

A `Position` is a line and a column; columns count the bytes of a line, and the
first byte of a script stands at line 1, column 1. A `Span` is the half-open
stretch from its start to the position just past its last byte. Positions are
ordered by line first and by column within a line.
-/

namespace RouteScript

/-- A line and a column. Scripts only produce positive ones; a token list made
elsewhere may carry any integers. -/
structure Position where
  line : Int
  column : Int
  deriving DecidableEq, Repr

/-- `p.Before q`: `p` stands strictly earlier than `q`. -/
def Position.Before (p q : Position) : Prop :=
  p.line < q.line ∨ p.line = q.line ∧ p.column < q.column

/-- `p.AtMost q`: `p` does not stand later than `q`. -/
def Position.AtMost (p q : Position) : Prop :=
  p.line < q.line ∨ p.line = q.line ∧ p.column ≤ q.column

instance (p q : Position) : Decidable (p.Before q) :=
  inferInstanceAs (Decidable (_ ∨ _))

instance (p q : Position) : Decidable (p.AtMost q) :=
  inferInstanceAs (Decidable (_ ∨ _))

/-- One column further on the same line. -/
def Position.right (p : Position) : Position := ⟨p.line, p.column + 1⟩

section Order

variable {p q r : Position}

theorem Position.AtMost.refl (p : Position) : p.AtMost p := .inr ⟨rfl, Int.le_refl _⟩

theorem Position.AtMost.trans (first : p.AtMost q) (second : q.AtMost r) : p.AtMost r := by
  unfold Position.AtMost at *
  omega

theorem Position.before_of_right_atMost (further : p.right.AtMost q) : p.Before q := by
  simp only [Position.AtMost, Position.right] at further
  unfold Position.Before
  omega

end Order

/-- The text of a position inside a message about `file`. -/
def Position.within (p : Position) (file : String) : String :=
  s!"{file}:{p.line}:{p.column}"

/-- A half-open stretch of a script. -/
structure Span where
  start : Position
  stop : Position
  deriving DecidableEq, Repr

end RouteScript
