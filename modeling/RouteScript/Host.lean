import RouteScript.Client.Service
import RouteScript.Compile
import RouteScript.Files
import RouteScript.Machine.Run
import RouteScript.Settings.RunConfig

/-!
Scripts on a host: compiled, and run if nothing fatal was found.

Each script is run by a machine of its own over the service of the host, whose
state goes on from script to script. A `Report` says what became of a script. A
failure that the service passes on leaves no report.
-/

namespace RouteScript

/-- Whether a script went through. A failed route is not an error, unless it ends
the run. -/
inductive Status where
  | success
  | error
  deriving DecidableEq, Repr

/-- What became of a script. -/
structure Report where
  status : Status
  diagnostics : Diagnostics
  ok : Nat := 0
  err : Nat := 0
  effects : List Effect := []
  /-- A failed route ended the run. -/
  aborted : Bool := false
  /-- The script was run. -/
  executed : Bool := false
  deriving DecidableEq, Repr

namespace Report

/-- The number of routes that were tried. -/
def total (r : Report) : Nat := r.ok + r.err

/-- Whether the script went through and every route passed. -/
def passed (r : Report) : Bool := r.status = .success && r.err == 0

/-- What is reported of a script that was not run. -/
def refusal (diagnostics : Diagnostics) : Report := { status := .error, diagnostics }

/-- What is reported of a script that was run: its status, and what its machine
counted and recorded. -/
def ofMachine (status : Status) (diagnostics : Diagnostics) (aborted : Bool) (m : Machine) :
    Report :=
  { status, diagnostics, ok := m.ok, err := m.err, effects := m.effects, aborted, executed := true }

end Report

/-- Compiles the script at a path; without a file there is no program. -/
def compileFile (scripts : Scripts) (path : String) : Compiled :=
  let nothing : Diagnostics := { file := path }
  match scripts path with
  | .file lines fails => compileChunks (Chunk.ofLines lines fails) path
  | .refused => ⟨[], nothing.push .unreadableFile⟩
  | .nothing => ⟨[], nothing.push .wrongPath⟩

/-- What scripts are run with. -/
structure Host (σ ε : Type) where
  modes : Modes
  service : Service σ ε
  /-- Whether the host is handed the counts of its runs. A run without counts went
  wrong. -/
  counts : Bool := true

namespace Host

variable {σ ε : Type}

/-- The machine on which a script starts. -/
def machine (h : Host σ ε) : Machine :=
  { silent := h.modes.silent, quiet := h.modes.quiet, blocking := h.modes.blocking }

/-- Runs a script if no error was recorded for it. -/
def execute (h : Host σ ε) (c : Compiled) (s : σ) : Except ε Report × σ :=
  if c.diagnostics.triggered then (.ok (.refusal c.diagnostics), s)
  else
    let r := Machine.run h.service c.program h.machine s
    let report := match r.ending with
      | .fault e => .error e
      | .aborted => .ok (.ofMachine .error c.diagnostics true r.machine)
      | .finished =>
        match if h.counts then r.machine.counts? c.program else none with
        | some (ok, err) =>
          .ok { Report.ofMachine .success c.diagnostics false r.machine with ok, err }
        | none => .ok (.ofMachine .error (c.diagnostics.push .wrongExec) false r.machine)
    (report, r.service)

/-- Compiles and runs a script held in memory. -/
def runText (h : Host σ ε) (text name : String) (s : σ) : Except ε Report × σ :=
  h.execute (compileText text name) s

/-- Compiles and runs the script at a path. -/
def runFile (h : Host σ ε) (scripts : Scripts) (path : String) (s : σ) : Except ε Report × σ :=
  h.execute (compileFile scripts path) s

end Host

/-- The host of a configuration, with requests over a transport. -/
def RunConfig.host {τ : Type} (c : RunConfig) (transport : Transport τ) :
    Host (Traffic τ) ClientFault :=
  { modes := c.modes, service := Client.service transport c.http.toValue }

end RouteScript
