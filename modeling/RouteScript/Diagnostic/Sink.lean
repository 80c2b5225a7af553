import RouteScript.Diagnostic

/-!
The sink that collects the diagnostics of one script.

Entries keep the order in which they were recorded. Recording an error sets
`triggered`, which stays set for the life of the sink; `flush` writes the
entries, forgets them, and reports whether the process has to exit.

A sink holds `Diagnostic`s (`Diagnostics`). A caller may also hand over entries
that are no diagnostics at all (`Entry.foreign`): such a sink can be kept, but
not reported, and every operation that looks at a foreign entry refuses.
-/

namespace RouteScript

/-- The entries recorded for the script called `file`, oldest first. -/
structure Sink (ε : Type) where
  file : String
  entries : List ε := []
  triggered : Bool := false
  deriving DecidableEq, Repr

namespace Sink

variable {ε : Type}

/-- Records an error: the sink is triggered from here on. -/
def push (s : Sink ε) (e : ε) : Sink ε :=
  { s with entries := s.entries ++ [e], triggered := true }

/-- Records a warning. -/
def pushWarning (s : Sink ε) (e : ε) : Sink ε :=
  { s with entries := s.entries ++ [e] }

end Sink

/-- The sink of a script that is read from its text alone. -/
abbrev Diagnostics := Sink Diagnostic

/-- What a flush wrote, whether the process exits with status 1 after it, and
the sink that remains. -/
structure Flush where
  lines : List Line
  exits : Bool
  remaining : Diagnostics
  deriving DecidableEq, Repr

namespace Diagnostics

/-- Records a diagnostic as an error or as a warning, by its kind. -/
def record (s : Diagnostics) (d : Diagnostic) : Diagnostics :=
  if d.fatal then s.push d else s.pushWarning d

/-- The recorded errors, in order. -/
def errors (s : Diagnostics) : List Diagnostic := s.entries.filter (·.fatal)

/-- The recorded warnings, in order. -/
def warnings (s : Diagnostics) : List Diagnostic := s.entries.filter (! ·.fatal)

/-- The report on every entry, in order. -/
def render (s : Diagnostics) : List Line := s.entries.flatMap (·.lines s.file)

/-- Writes and forgets the entries. Nothing happens to an empty sink; a blank
line closes a report that holds no error. -/
def flush (s : Diagnostics) : Flush :=
  if s.entries.isEmpty then ⟨[], false, s⟩
  else if s.triggered then ⟨s.render, true, { s with entries := [] }⟩
  else ⟨s.render ++ [.out ""], false, { s with entries := [] }⟩

end Diagnostics

/-! ### Sinks with foreign entries -/

/-- Something handed to a sink: a diagnostic, or an object that is none. -/
inductive Entry where
  | known (d : Diagnostic)
  | foreign (text : String)
  deriving DecidableEq, Repr

namespace Sink

/-- The diagnostics among the entries, or the first entry that is none. -/
def knownEntries : List Entry → Except String (List Diagnostic)
  | [] => .ok []
  | .known d :: rest => (knownEntries rest).map (d :: ·)
  | .foreign text :: _ => .error text

/-- A sink of diagnostics only, or the first entry that is none. -/
def known (s : Sink Entry) : Except String Diagnostics :=
  (knownEntries s.entries).map fun entries => { file := s.file, entries, triggered := s.triggered }

/-- Records an entry by its kind; a foreign entry has none. -/
def recordEntry (s : Sink Entry) : Entry → Except String (Sink Entry)
  | .foreign text => .error text
  | .known d => .ok (if d.fatal then s.push (.known d) else s.pushWarning (.known d))

/-- Flushes a sink whose entries are all diagnostics; otherwise nothing is
written and nothing forgotten. -/
def flushEntries (s : Sink Entry) : Except String (List Line × Bool × Sink Entry) :=
  s.known.map fun d =>
    let f := d.flush
    (f.lines, f.exits, { s with entries := f.remaining.entries.map .known })

end Sink

end RouteScript
