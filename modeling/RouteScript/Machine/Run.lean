import RouteScript.Machine.Basic

/-!
Running a program.

Instructions are executed in order. In blocking mode the run is aborted behind the
first instruction after which a route has failed; a failure passed on by the
service ends it at the instruction that met it. A run keeps the states of the
machine after each instruction it completed.

A program that was not compiled may hold cells that are no instructions; executing
one is a failure of its own (`runCells`).
-/

namespace RouteScript

/-- How a run ended. -/
inductive Ending (ε : Type) where
  /-- Every instruction was executed. -/
  | finished
  /-- A route failed in blocking mode. -/
  | aborted
  | fault (e : ε)
  deriving DecidableEq, Repr

/-- A run: how it ended, what it left behind, and the machine after each completed
instruction, before the cursor moves on. -/
structure Run (σ ε : Type) where
  ending : Ending ε
  machine : Machine
  service : σ
  trace : List Machine

/-- A place of a program: an instruction, or something that is none. -/
inductive Cell where
  | code (i : Instruction)
  | foreign (text : String)
  deriving DecidableEq, Repr

/-- What a run of cells can meet. -/
inductive CellFault (ε : Type) where
  | service (e : ε)
  | unknownInstruction (text : String)
  deriving DecidableEq, Repr

namespace Machine

variable {ι σ ε : Type}

/-- Executes the rest of a program. -/
def runFrom (exec : ι → Machine → σ → Progress σ ε) : List ι → Machine → σ → Run σ ε
  | [], m, s => ⟨.finished, m, s, []⟩
  | i :: rest, m, s =>
    let p := exec i m s
    match p.fault with
    | some e => ⟨.fault e, p.machine, p.service, []⟩
    | none =>
      let moved := { p.machine with cursor := p.machine.cursor + 1 }
      if moved.blocking && moved.err != 0 then ⟨.aborted, moved, p.service, [p.machine]⟩
      else
        let r := runFrom exec rest moved p.service
        { r with trace := p.machine :: r.trace }

/-- Executes a program from its first instruction. -/
def run (service : Service σ ε) (program : Program) (m : Machine) (s : σ) : Run σ ε :=
  runFrom (step service) program { m with cursor := 0 } s

/-- The counts of a run that came to the end of its program. -/
def counts? (program : Program) (m : Machine) : Option (Nat × Nat) :=
  if m.cursor = program.length then some (m.ok, m.err) else none

/-- What is said about an aborted run. -/
def abortMessage (ok err : Nat) : String :=
  s!"route failed in blocking mode ({ok} ok, {err} failed)"

/-! ### Programs with foreign cells -/

/-- Executes one cell. -/
def stepCell (service : Service σ ε) (cell : Cell) (m : Machine) (s : σ) :
    Progress σ (CellFault ε) :=
  match cell with
  | .code i =>
    let p := step service i m s
    ⟨p.machine, p.service, p.fault.map .service⟩
  | .foreign text => ⟨m, s, some (.unknownInstruction text)⟩

/-- Executes cells from the first one. -/
def runCells (service : Service σ ε) (cells : List Cell) (m : Machine) (s : σ) :
    Run σ (CellFault ε) :=
  runFrom (stepCell service) cells { m with cursor := 0 } s

end Machine

end RouteScript
