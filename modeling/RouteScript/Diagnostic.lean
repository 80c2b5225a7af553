import RouteScript.Position
import RouteScript.Output

/-!
Problems found while a script is read.

There are twelve kinds. Ten are errors (`Diagnostic.fatal`) and keep the script
from running; `unknownEscape` and `emptyString` are warnings. `Diagnostic.lines`
is the wording: an error or warning goes to standard error, and the two errors
about a misplaced token add a note on standard output.
-/

namespace RouteScript

/-- A problem with a script. -/
inductive Diagnostic where
  /-- There is no file at the script's path. -/
  | wrongPath
  /-- The script's file cannot be opened. -/
  | unreadableFile
  /-- Reading broke off after `line` lines. -/
  | unreadableLine (line : Int)
  /-- The script holds no token. -/
  | emptyFile
  /-- A string literal has no closing quote. -/
  | unclosedString (pos : Position)
  /-- The script ends where something more was needed. -/
  | expectedToken (pos : Position) (expected : String)
  /-- Another token was needed here; `after` is the end of the token before. -/
  | unexpectedToken (loc : Span) (expected : String) (after : Position)
  /-- A variable is read before it has a value. -/
  | nullVariable (loc : Span) (name : String)
  /-- No statement starts with this token. -/
  | noParse (pos : Position) (text : String)
  /-- The execution broke down. -/
  | wrongExec
  /-- A backslash precedes a byte that is no escape. -/
  | unknownEscape (pos : Position)
  /-- A string literal has no content. -/
  | emptyString (pos : Position)
  deriving DecidableEq, Repr

namespace Diagnostic

/-- Errors keep a script from running; warnings do not. -/
def fatal : Diagnostic → Bool
  | unknownEscape _ | emptyString _ => false
  | _ => true

/-- The lines that report a problem of the script called `file`. -/
def lines (file : String) : Diagnostic → List Line
  | wrongPath => [.err s!"error: {file}: No such file or directory"]
  | unreadableFile => [.err s!"error: {file}: Can't read the file"]
  | unreadableLine n => [.err s!"error: {file}: Can't read the file at line {n}"]
  | emptyFile => [.err s!"error: {file}: No instructions were found"]
  | unclosedString pos => [.err s!"error: {pos.within file} Unclose string"]
  | expectedToken pos expected =>
    [.err s!"error: {pos.within file} Expected token",
     .out s!"note: {expected} is expexted"]
  | unexpectedToken loc expected after =>
    [.err s!"error: {loc.start.within file} Unexpected token",
     .out s!"note: {expected} is expexted at {after.within file}"]
  | nullVariable loc name =>
    [.err s!"error: {loc.start.within file} Variable `{name}` has no value"]
  | noParse pos text =>
    [.err s!"error: {pos.within file} Impossible to parse at token `{text}`"]
  | wrongExec => [.err s!"error: {file}: Something went wrong with the execution"]
  | unknownEscape pos => [.err s!"warning: {pos.within file} Unknow escape sequence"]
  | emptyString pos => [.err s!"warning: {pos.within file} Empty string"]

end Diagnostic

end RouteScript
