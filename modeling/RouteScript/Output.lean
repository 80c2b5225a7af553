/-!
What a program writes: lines of text, each on one of two streams.
-/

namespace RouteScript

/-- The two output streams of a process. -/
inductive Stream where
  | out
  | err
  deriving DecidableEq, Repr

/-- One line of output; its line end is not part of `text`. -/
structure Line where
  stream : Stream
  text : String
  deriving DecidableEq, Repr

/-- A line on standard output. -/
def Line.out (text : String) : Line := ⟨.out, text⟩

/-- A line on standard error. -/
def Line.err (text : String) : Line := ⟨.err, text⟩

/-- Everything that `lines` put on one stream, each line with its line end. -/
def Line.onStream (stream : Stream) (lines : List Line) : String :=
  String.join ((lines.filter (·.stream = stream)).map (·.text ++ "\n"))

end RouteScript
