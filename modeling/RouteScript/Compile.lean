import RouteScript.Lexer.Tokenize
import RouteScript.Parser.Total

/-!
From the text of a script to a program.

Lexer and parser record into one sink, so that the lexical problems of a script
come before its syntactic ones. Text held in memory is read line by line, as a
file is; a source that hands over chunks of its own may break off, and then there
is nothing to return.
-/

namespace RouteScript

/-- The source of a script broke off. -/
inductive Interruption where
  | interrupted
  deriving DecidableEq, Repr

/-- A program and what was recorded on the way to it. -/
structure Compiled where
  program : Program
  diagnostics : Diagnostics
  deriving DecidableEq, Repr

namespace Lexer

/-- The tokens of an input and the lexer behind the last one. -/
def scan (chunks : List Chunk) (file : String) : List Token × Lexer :=
  (start chunks { file }).tokenize

/-- The tokens of an input that does not break off, and what was recorded. -/
def scan? (chunks : List Chunk) (file : String) :
    Except Interruption (List Token × Diagnostics) :=
  let (tokens, s) := scan chunks file
  if s.interrupted then .error .interrupted else .ok (tokens, s.diagnostics)

end Lexer

/-- Compiles tokens; what was recorded about them before stays in front. -/
def compileTokens (tokens : List Token) (diagnostics : Diagnostics) : Compiled :=
  let p := Parser.finish { rest := tokens, diagnostics }
  ⟨p.program, p.diagnostics⟩

/-- Compiles a script from a source that may break off. -/
def compileChunks? (chunks : List Chunk) (file : String) : Except Interruption Compiled :=
  (Lexer.scan? chunks file).map fun (tokens, diagnostics) => compileTokens tokens diagnostics

/-- Compiles a script from a source that does not break off. -/
def compileChunks (chunks : List Chunk) (file : String) : Compiled :=
  let (tokens, s) := Lexer.scan chunks file
  compileTokens tokens s.diagnostics

/-- Compiles a script held in memory. -/
def compileText (text file : String) : Compiled := compileChunks (Chunk.ofText text) file

end RouteScript
