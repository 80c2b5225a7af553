import RouteScript.Command.Summary
import RouteScript.Host

/-!
Running the files of a command line, one after the other.

Before a file is run its diagnostics are written, and errors among them end the
command; so does a run that a failed route aborted. Otherwise a file shows its
effects and then the summary of all routes so far. A failure that the service
passes on ends the command where it stands: what was written before remains.
-/

namespace RouteScript

namespace Command

/-- What became of a command: the lines it wrote, its exit status unless a failure
got through, and the state of the service. -/
structure Conclusion (σ ε : Type) where
  lines : List Line
  exit : Except ε Nat
  service : σ

variable {σ ε : Type}

/-- A conclusion with some lines written before. -/
def Conclusion.after (c : Conclusion σ ε) (lines : List Line) : Conclusion σ ε :=
  { c with lines := lines ++ c.lines }

/-- What the report on a file writes before its summary. Only a run that went
wrong without an abort has diagnostics left to write. -/
def shown (r : Report) : Flush :=
  let effects := r.effects.map Effect.line
  if r.aborted then ⟨effects, true, r.diagnostics⟩
  else if r.status = .error then
    let f := r.diagnostics.flush
    { f with lines := effects ++ f.lines }
  else ⟨effects, false, r.diagnostics⟩

/-- Runs files, with the routes counted so far. -/
def runFiles (host : Host σ ε) (scripts : Scripts) :
    (paths : List String) → (ok err : Nat) → σ → Conclusion σ ε
  | [], _, _, s => ⟨[], .ok 0, s⟩
  | path :: rest, ok, err, s =>
    let compiled := compileFile scripts path
    let f := compiled.diagnostics.flush
    if f.exits then ⟨f.lines, .ok 1, s⟩
    else match host.execute { compiled with diagnostics := f.remaining } s with
      | (.error e, s) => ⟨f.lines, .error e, s⟩
      | (.ok report, s) =>
        let g := shown report
        if g.exits then ⟨f.lines ++ g.lines, .ok 1, s⟩
        else
          let ok := ok + report.ok
          let err := err + report.err
          (runFiles host scripts rest ok err s).after
            (f.lines ++ g.lines ++ summary ok err host.modes.formatted)

end Command

end RouteScript
