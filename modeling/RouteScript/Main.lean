import RouteScript.Client.Routes
import RouteScript.Command.Run

/-!
The program behind the command.

Every path that the words may name is looked up before the command runs, and what
the command wrote is put on the two streams behind it. Requests are answered from
an empty table of routes, so that none of them finds a connection.
-/

namespace RouteScript

namespace Command

/-- What a failure to read something tells about its path. -/
def foundBy : IO.Error → Found
  | .inappropriateType _ 21 _ => .directory
  | .inappropriateType .. => .notDirectory
  | .permissionDenied .. => .denied
  | _ => .missing

/-- What the system holds at a path. -/
def lookUp (path : String) : IO Found := do
  try
    let bytes ← IO.FS.readBinFile path
    return .file bytes.data.toList
  catch e => return foundBy e

/-- What is left in an open file, in at most `pieces` further pieces behind those
found, and the failure to read on if there is one. -/
def readPieces (h : IO.FS.Handle) : (pieces : Nat) → ByteArray → IO (ByteArray × Option IO.Error)
  | 0, found => return (found, none)
  | pieces + 1, found => do
    match ← (h.read 65536).toBaseIO with
    | .error e => return (found, some e)
    | .ok piece =>
      if piece.isEmpty then return (found, none) else readPieces h pieces (found ++ piece)

/-- What comes of opening a script. Where reading fails the lines before are those
that are complete. -/
def openScript (path : String) : IO Opened := do
  try
    let h ← IO.FS.Handle.mk path .read
    let (bytes, failure) ← readPieces h 1000000 .empty
    let lines := Chunk.splitLines bytes.data.toList
    match failure with
    | none => return .file lines false
    -- A directory can be opened here, but not read.
    | some (.inappropriateType ..) => return .refused
    | some _ => return .file (lines.filter (·.getLast? = some 10)) true
  catch e => return (foundBy e).opened

/-- Looks up paths before they are asked for. -/
def gather {α : Type} (look : String → IO α) (default : α) (paths : List String) :
    IO (String → α) := do
  let found ← paths.mapM fun path => return (path, ← look path)
  return fun path => (found.lookup path).getD default

/-- What is said about a failure that got through. -/
def Fault.message : Fault → String
  | load e => e.message
  | client (.transport _ message) => message
  | client (.conversion e) => e.message

/-- Writes a line on its stream. -/
def write (line : Line) : IO Unit :=
  match line.stream with
  | .out => IO.println line.text
  | .err => IO.eprintln line.text

end Command

end RouteScript

open RouteScript in
/-- Runs the command with its words; a failure that gets through ends it with
status 1. -/
def main (words : List String) : IO UInt32 := do
  let files ← Command.gather Command.lookUp .missing (words.map Files.plainPath)
  let scripts ← Command.gather Command.openScript .nothing words
  let c := Command.runWith (RunConfig.load files) Route.transport scripts true words
    { transport := [] }
  c.lines.forM Command.write
  match c.exit with
  | .ok code => return code.toUInt32
  | .error f =>
    IO.eprintln f.message
    return 1
