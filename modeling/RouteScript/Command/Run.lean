import RouteScript.Command.Arguments
import RouteScript.Command.Files
import RouteScript.Settings.Load

/-!
The command.

Its words are read, the configuration is loaded, flags are laid over it, and the
files are run. A command that cannot start says why on standard error and exits
with status 1; if its words are at fault, the usage follows.

How a configuration is loaded is no business of the command (`runWith`); one that
is started on files has it from these (`run`).
-/

namespace RouteScript

namespace Command

/-- How the command is used. -/
def usage : List Line := [.out <| "\n".intercalate
  ["",
   "goudron : lightweight api tester",
   "Usage : goudron [option] file...",
   "Option : -h, --help      Show this help.",
   "         -b, --blocking  Stop the program after an route error.",
   "         -f, --formated  Run script(s) and without any print, only a formated response (true or false).",
   "         -s, --silent    Run script(s) with no route error print.",
   "         -q, --quiet     Run script(s) without the print keyword.",
   "         -c, --config    Read transport settings from a YAML file.",
   ""]]

/-- What is said about words that cannot be read. -/
def complaint (e : ArgumentError) : List Line := .err s!"error: {e.message}" :: usage

/-- A failure that gets through a command. -/
inductive Fault where
  | load (e : LoadError)
  | client (f : ClientFault)
  deriving DecidableEq, Repr

variable {τ : Type}

/-- The command with arguments that could be read. `counts` says whether the counts
of a run are handed on (`Host.counts`). -/
def runArguments (load : Loader) (transport : Transport τ) (scripts : Scripts) (counts : Bool)
    (a : Arguments) (s : Traffic τ) : Conclusion (Traffic τ) Fault :=
  match load a.config with
  | .error e =>
    let path := a.config.getD ""
    if e.isReported then ⟨[.err s!"error: {path}: {e.message}"], .ok 1, s⟩
    else ⟨[], .error (.load e), s⟩
  | .ok loaded =>
    match loaded.withFlags a.modes with
    | .error e => ⟨[], .error (.load (.config (.conversion e))), s⟩
    | .ok config =>
      let c := runFiles { config.host transport with counts } scripts a.files 0 0 s
      { c with exit := c.exit.mapError .client }

/-- The command with its words and a way to load configurations. -/
def runWith (load : Loader) (transport : Transport τ) (scripts : Scripts) (counts : Bool)
    (words : List String) (s : Traffic τ) : Conclusion (Traffic τ) Fault :=
  match words with
  | [] => ⟨usage, .ok 1, s⟩
  | ["-h"] | ["--help"] => ⟨usage, .ok 0, s⟩
  | words =>
    match Arguments.parse words with
    | .error e => ⟨complaint e, .ok 1, s⟩
    | .ok a => runArguments load transport scripts counts a s

/-- The command with its words, on files that hold configurations and scripts. -/
def run (transport : Transport τ) (files : Files) (counts : Bool) (words : List String)
    (s : Traffic τ) : Conclusion (Traffic τ) Fault :=
  runWith (RunConfig.load files) transport files counts words s

end Command

end RouteScript
