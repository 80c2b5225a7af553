import Mathlib.Data.List.Induction
import RouteScript.Diagnostic.Sink

/-!
A sink reports every diagnostic once.

A sink may be used in any order: errors and warnings are recorded, and reports are flushed, also
behind a flush after which the process would have exited (`Use`). What was written and what the
sink still holds are together all that was recorded, in order (`reported_once`). One use keeps this
balance (`Use.balance`), hence so does any number of them.

What a flush does is a matter of the uses before it alone (`after_eq`): of the diagnostics recorded
since the last flush (`pending`), and of whether an error was recorded at any time.
-/

namespace RouteScript

/-- The line that closes a report without errors. -/
def Line.blank : Line := .out ""

/-- No line of a report is blank. -/
theorem Diagnostic.blank_not_mem_lines (file : String) (d : Diagnostic) :
    .blank ∉ d.lines file := by
  have note : toString "note: " ≠ "" := by decide
  cases d <;> simp [lines, Line.blank, Line.out, Line.err, note]

namespace Diagnostics

/-! ### Uses of a sink -/

/-- What is done to a sink. -/
inductive Use where
  | push (d : Diagnostic)
  | pushWarning (d : Diagnostic)
  | record (d : Diagnostic)
  | flush
  deriving DecidableEq, Repr

namespace Use

/-- What a use writes, whether the process exits after it, and the sink that remains. -/
def apply (s : Diagnostics) : Use → Flush
  | push d => ⟨[], false, Sink.push s d⟩
  | pushWarning d => ⟨[], false, Sink.pushWarning s d⟩
  | record d => ⟨[], false, s.record d⟩
  | flush => s.flush

/-- The diagnostic that is recorded. -/
def recorded? : Use → Option Diagnostic
  | push d | pushWarning d | record d => some d
  | flush => none

/-- Whether something is recorded as an error. -/
def fails : Use → Bool
  | push _ => true
  | record d => d.fatal
  | pushWarning _ | flush => false

end Use

/-- The sink behind some uses. -/
def after (s : Diagnostics) (uses : List Use) : Diagnostics :=
  uses.foldl (fun s use => (use.apply s).remaining) s

/-- What is written on the way. -/
def written (s : Diagnostics) : List Use → List Line
  | [] => []
  | use :: rest => (use.apply s).lines ++ written (use.apply s).remaining rest

/-- What is recorded, oldest first. -/
def recorded (uses : List Use) : List Diagnostic := uses.filterMap Use.recorded?

/-- What was recorded since the last flush. -/
def pending (uses : List Use) : List Diagnostic :=
  recorded (uses.reverse.takeWhile (· ≠ .flush)).reverse

variable {s : Diagnostics} {use : Use} {uses : List Use} {d : Diagnostic}

/-! ### Flushes -/

theorem flush_of_nil (none : s.entries = []) : s.flush = ⟨[], false, s⟩ := by
  simp [flush, none]

theorem flush_of_triggered (some' : s.entries ≠ []) (triggered : s.triggered = true) :
    s.flush = ⟨s.render, true, { s with entries := [] }⟩ := by
  simp [flush, some', triggered]

theorem flush_of_not_triggered (some' : s.entries ≠ []) (calm : s.triggered = false) :
    s.flush = ⟨s.render ++ [.blank], false, { s with entries := [] }⟩ := by
  simp [flush, some', calm, Line.blank]

/-- A flush leaves nothing but the trigger. -/
theorem remaining_flush (s : Diagnostics) : s.flush.remaining = { s with entries := [] } := by
  unfold flush
  split
  · next none => rw [← List.isEmpty_iff.mp none]
  · split <;> rfl

/-- A flush writes a report on the entries, and blank lines only besides. -/
theorem lines_flush (s : Diagnostics) :
    s.flush.lines.filter (· ≠ .blank) = s.render := by
  have report : s.render.filter (· ≠ .blank) = s.render := by
    refine List.filter_eq_self.mpr fun l mem => decide_eq_true ?_
    rintro rfl
    obtain ⟨d, -, here⟩ := List.mem_flatMap.mp mem
    exact d.blank_not_mem_lines s.file here
  unfold flush
  split
  · next none => simp [render, List.isEmpty_iff.mp none]
  · split
    · exact report
    · rw [List.filter_append, report]
      exact List.append_nil _

/-! ### The balance -/

theorem render_append (s : Diagnostics) (more : List Diagnostic) :
    render { s with entries := s.entries ++ more } = s.render ++ more.flatMap (·.lines s.file) :=
  List.flatMap_append

/-- What one use writes and leaves is what there was and what it records. -/
theorem Use.balance (use : Use) (s : Diagnostics) :
    (use.apply s).lines.filter (· ≠ .blank) ++ (use.apply s).remaining.render =
      s.render ++ use.recorded?.toList.flatMap (·.lines s.file) := by
  cases use with
  | push d => exact render_append s [d]
  | pushWarning d => exact render_append s [d]
  | record d =>
    simp only [Use.apply, Diagnostics.record]
    split <;> exact render_append s [d]
  | flush =>
    simp only [Use.apply, lines_flush, remaining_flush]
    rfl

theorem Use.file_remaining (use : Use) (s : Diagnostics) : (use.apply s).remaining.file = s.file := by
  cases use with
  | push d => rfl
  | pushWarning d => rfl
  | record d =>
    simp only [Use.apply, Diagnostics.record]
    split <;> rfl
  | flush => simp only [Use.apply, remaining_flush]

theorem balance (uses : List Use) (s : Diagnostics) :
    (s.written uses).filter (· ≠ .blank) ++ (s.after uses).render =
      s.render ++ (recorded uses).flatMap (·.lines s.file) := by
  induction uses generalizing s with
  | nil => exact (List.append_nil _).symm
  | cons use rest ih =>
    have later := ih (use.apply s).remaining
    rw [use.file_remaining] at later
    have split' : recorded (use :: rest) = use.recorded?.toList ++ recorded rest := by
      cases use <;> rfl
    calc (s.written (use :: rest)).filter (· ≠ .blank) ++ (s.after (use :: rest)).render
        = (use.apply s).lines.filter (· ≠ .blank) ++
            (((use.apply s).remaining.written rest).filter (· ≠ .blank) ++
              ((use.apply s).remaining.after rest).render) := by
          rw [written, List.filter_append, List.append_assoc]
          rfl
      _ = ((use.apply s).lines.filter (· ≠ .blank) ++ (use.apply s).remaining.render) ++
            (recorded rest).flatMap (·.lines s.file) := by rw [later, List.append_assoc]
      _ = s.render ++ (recorded (use :: rest)).flatMap (·.lines s.file) := by
          rw [use.balance, split', List.flatMap_append, List.append_assoc]

/-! ### Histories -/

theorem after_snoc (s : Diagnostics) (uses : List Use) (use : Use) :
    s.after (uses ++ [use]) = (use.apply (s.after uses)).remaining := by
  rw [after, List.foldl_append]
  rfl

theorem pending_snoc (uses : List Use) (use : Use) :
    pending (uses ++ [use]) =
      if use = .flush then [] else pending uses ++ use.recorded?.toList := by
  by_cases flush : use = .flush
  · simp [pending, recorded, flush]
  · have one : recorded [use] = use.recorded?.toList := by cases use <;> rfl
    simp [pending, recorded, flush, ← one]

/-- What a sink holds is what was recorded since the last flush; it is triggered by an error at
any time. -/
theorem after_eq (file : String) (uses : List Use) :
    after { file } uses =
      { file, entries := pending uses, triggered := uses.any Use.fails } := by
  induction uses using List.reverseRecOn with
  | nil => rfl
  | append_singleton uses use ih =>
    rw [after_snoc, ih, pending_snoc, List.any_append]
    cases use with
    | push d => simp [Use.apply, Sink.push, Use.recorded?, Use.fails]
    | pushWarning d => simp [Use.apply, Sink.pushWarning, Use.recorded?, Use.fails]
    | record d =>
      cases fatal : d.fatal <;>
        simp [Use.apply, Diagnostics.record, Sink.push, Sink.pushWarning, Use.recorded?, Use.fails, fatal]
    | flush => simp [Use.apply, remaining_flush, Use.fails]

/-- What was written, blank lines apart, and what is left to be written are the reports on all that
was recorded, in order. A flush behind these uses exits if there is something to report and an error
was recorded at any time before. It writes the reports on what was recorded since the last flush,
with a blank line behind them if there was never an error, and nothing if there are none. -/
theorem reported_once (file : String) (uses : List Use) :
    let s : Diagnostics := after { file } uses
    (written { file } uses).filter (· ≠ .blank) ++ s.render =
        (recorded uses).flatMap (·.lines file) ∧
      s.entries = pending uses ∧
      (s.flush.exits = true ↔ pending uses ≠ [] ∧ uses.any Use.fails = true) ∧
      s.flush.lines =
        if pending uses = [] then []
        else (pending uses).flatMap (·.lines file) ++ if uses.any Use.fails then [] else [.blank] := by
  intro s
  have held : s = { file, entries := pending uses, triggered := uses.any Use.fails } :=
    after_eq file uses
  refine ⟨balance uses { file }, congrArg Sink.entries held, ?_⟩
  rw [held]
  by_cases none : pending uses = []
  · rw [flush_of_nil none]
    simp [none]
  · cases failed : uses.any Use.fails with
    | true =>
      rw [flush_of_triggered none rfl]
      simp [none, render]
    | false =>
      rw [flush_of_not_triggered none rfl]
      simp [none, render]

end Diagnostics

end RouteScript
