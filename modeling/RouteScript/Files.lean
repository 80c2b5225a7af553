import RouteScript.Lexer.Chunk
import RouteScript.Text.Quoted
import RouteScript.Text.Utf8

/-!
The files that a run can read.

All that a run knows of them is what is found at each path (`Files`). Text files
are read through that (`Files.readText`). A script is opened and then read line by
line, and reading can fail behind any line (`Opened`); one that is found in full is
read to its end (`Files.scripts`).

A `FileTree` lists files and directories by their paths below the current
directory; directories on the way to one are there as well. Looking a path up
walks it component by component, and every component but the last has to be a
directory (`FileTree.find`).
-/

namespace RouteScript

/-- What is found at a path. -/
inductive Found where
  | file (bytes : List UInt8)
  | directory
  | missing
  /-- Something on the way is a file. -/
  | notDirectory
  /-- Something on the way has too long a name. -/
  | nameTooLong
  /-- What is there may not be read. -/
  | denied
  deriving DecidableEq, Repr

/-- What is found at each path. -/
abbrev Files := String → Found

/-- Files with their contents and directories without, each by the components of
its path. -/
structure FileTree where
  entries : List (List String × Option (List UInt8))
  deriving DecidableEq, Repr

namespace FileTree

/-- The components of a path, empty ones included. -/
def components (path : String) : List String := path.splitOn "/"

/-- Whether a component stays where it is. -/
def isHere (component : String) : Bool := component = "" || component = "."

/-- A tree from paths and contents. -/
def ofPaths (files : List (String × Option (List UInt8))) : FileTree :=
  ⟨files.map fun (path, content) => ((components path).filter (! isHere ·), content)⟩

/-- The greatest length of a name in bytes. -/
def nameLimit : Nat := 255

/-- The greatest length of a path in bytes. -/
def pathLimit : Nat := 4095

/-- What stands at a place of the tree. -/
def look (t : FileTree) (place : List String) : Found :=
  match t.entries.lookup place with
  | some (some bytes) => .file bytes
  | some none => .directory
  | none => if t.entries.any fun e => place.isPrefixOf e.1 then .directory else .missing

/-- Follows components from a place of the tree, the current directory being the
empty place. Nothing is known beyond the current directory. -/
def walk (t : FileTree) (place : List String) : List String → Found
  | [] => if place = [] then .directory else t.look place
  | component :: rest =>
    match if place = [] then .directory else t.look place with
    | .directory =>
      if isHere component then walk t place rest
      else if component = ".." then
        match place with
        | [] => if rest.all fun c => isHere c || c = ".." then .directory else .missing
        | _ => walk t place.dropLast rest
      else if nameLimit < component.utf8ByteSize then .nameTooLong
      else walk t (place ++ [component]) rest
    | .file _ => .notDirectory
    | other => other

/-- What is found at a path. -/
def find (t : FileTree) : Files := fun path =>
  if path = "" then .missing
  else if pathLimit < path.utf8ByteSize then .nameTooLong
  else if path.startsWith "/" then
    if (components path).all fun c => isHere c || c = ".." then .directory else .missing
  else t.walk [] (components path)

end FileTree

/-! ### Reading text -/

/-- Why a text file cannot be read. -/
inductive FileError where
  | missing (path : String)
  | isDirectory (path : String)
  | notDirectory (path : String)
  | nameTooLong (path : String)
  | denied (path : String)
  /-- The path holds a NUL character. -/
  | badPath
  | encoding (e : Text.Utf8Error)
  deriving DecidableEq, Repr

namespace FileError

/-- The wording of an encoding error. -/
def encodingMessage (e : Text.Utf8Error) : String :=
  let place :=
    if e.length = 1 then
      s!"byte 0x{String.ofList (Text.hexDigits 2 e.first.toNat)} in position {e.position}"
    else s!"bytes in position {e.position}-{e.position + e.length - 1}"
  let what := match e.fault with
    | .start => "invalid start byte"
    | .continuation => "invalid continuation byte"
    | .ending => "unexpected end of data"
  s!"'utf-8' codec can't decode {place}: {what}"

/-- The wording of a failure. -/
def message : FileError → String
  | missing path => s!"[Errno 2] No such file or directory: {Text.quote path}"
  | isDirectory path => s!"[Errno 21] Is a directory: {Text.quote path}"
  | notDirectory path => s!"[Errno 20] Not a directory: {Text.quote path}"
  | nameTooLong path => s!"[Errno 36] File name too long: {Text.quote path}"
  | denied path => s!"[Errno 13] Permission denied: {Text.quote path}"
  | badPath => "embedded null byte"
  | encoding e => encodingMessage e

end FileError

namespace Files

/-- A path without needless components: `a//b/./c/` is `a/b/c`, and the empty path
is the current directory. -/
def plainPath (path : String) : String :=
  let kept := (FileTree.components path).filter (! FileTree.isHere ·)
  let root := if path.startsWith "//" && !path.startsWith "///" then "//"
    else if path.startsWith "/" then "/" else ""
  let joined := root ++ String.intercalate "/" kept
  if joined = "" then "." else joined

/-- Every line end becomes a newline. -/
def plainNewlines : List Char → List Char
  | '\r' :: '\n' :: rest => '\n' :: plainNewlines rest
  | '\r' :: rest => '\n' :: plainNewlines rest
  | c :: rest => c :: plainNewlines rest
  | [] => []

/-- The text of the file at a path. -/
def readText (files : Files) (path : String) : Except FileError String :=
  let path := plainPath path
  if path.contains '\x00' then .error .badPath
  else match files path with
    | .missing => .error (.missing path)
    | .directory => .error (.isDirectory path)
    | .notDirectory => .error (.notDirectory path)
    | .nameTooLong => .error (.nameTooLong path)
    | .denied => .error (.denied path)
    | .file bytes =>
      match Text.decodeUtf8 bytes with
      | .ok text => .ok (String.ofList (plainNewlines text.toList))
      | .error e => .error (.encoding e)

end Files

/-! ### Opening scripts -/

/-- What comes of opening a script. -/
inductive Opened where
  /-- Its lines. Behind them reading fails, or there is no more. -/
  | file (lines : List (List UInt8)) (fails : Bool)
  /-- What is there cannot be opened. -/
  | refused
  /-- There is nothing. -/
  | nothing
  deriving DecidableEq, Repr

/-- What comes of opening the script at each path. -/
abbrev Scripts := String → Opened

/-- What is found is opened: a file has its lines, and nothing goes wrong with them. -/
def Found.opened : Found → Opened
  | file bytes => .file (Chunk.splitLines bytes) false
  | directory | denied => .refused
  | missing | notDirectory | nameTooLong => .nothing

/-- The scripts among files. -/
def Files.scripts (files : Files) : Scripts := fun path => (files path).opened

instance : Coe Files Scripts := ⟨Files.scripts⟩

end RouteScript
