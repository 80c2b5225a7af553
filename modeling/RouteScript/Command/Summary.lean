import RouteScript.Machine.Basic
import RouteScript.Output

/-!
What is shown of a run: the recorded effects and a summary of the routes.

The summary counts passed and failed routes. In formatted mode it is a verdict
alone; otherwise nothing is said where no route was tried.
-/

namespace RouteScript

/-- The stream for what was recorded under some topics. -/
def Stream.ofTopics (topics : List String) : Stream :=
  if topics = ["stderr"] then .err else .out

/-- An effect as a line of output. -/
def Effect.line (e : Effect) : Line := ⟨.ofTopics [e.topic], e.message⟩

namespace Command

/-- Whether no route failed, in one word. -/
def verdict (err : Int) : String := if err = 0 then "true" else "false"

/-- The lines that sum up some routes. -/
def summary (ok err : Int) (formatted : Bool) : List Line :=
  if formatted then [.out (verdict err)]
  else if ok + err = 0 then []
  else if err = 0 then [.out s!"Done ! {ok} tests have been made with no errors."]
  else
    [.out s!"Done ! {ok + err} tests have been made.",
     .out s!"{ok} were successful",
     .out s!"{err} came with errors"]

end Command

end RouteScript
