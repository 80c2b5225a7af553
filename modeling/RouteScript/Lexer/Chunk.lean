/-!
The input of the lexer: a script that arrives in chunks.

A chunk usually is a line, but any cut of the input will do. Reading can fail
part way, which ends the script; it can also be interrupted, which is no business
of the lexer and is passed on to whoever asked for the next token.
-/

namespace RouteScript

/-- What the source of a script hands over when it is asked for more. -/
inductive Chunk where
  | data (bytes : List UInt8)
  /-- Reading failed, and whatever follows is not asked for. -/
  | failure
  /-- The source broke off for reasons of its own; nothing more can be had. -/
  | interrupt
  deriving DecidableEq, Repr

namespace Chunk

/-- A bound on the number of steps that a chunk can keep a lexer busy. -/
def weight : Chunk → Nat
  | data bytes => bytes.length
  | failure | interrupt => 1

/-- A bound for several chunks. -/
def totalWeight : List Chunk → Nat
  | [] => 0
  | chunk :: rest => chunk.weight + totalWeight rest

/-- Adds one byte in front of some lines; a newline ends a line of its own. -/
def consLine (b : UInt8) (lines : List (List UInt8)) : List (List UInt8) :=
  if b = 10 then [b] :: lines
  else match lines with
    | [] => [[b]]
    | line :: rest => (b :: line) :: rest

/-- Cuts bytes behind every newline. -/
def splitLines (bytes : List UInt8) : List (List UInt8) := bytes.foldr consLine []

/-- The bytes of a text. -/
def textBytes (text : String) : List UInt8 := text.toUTF8.data.toList

/-- Some lines, a chunk for each, and a failure behind them if reading fails there. -/
def ofLines (lines : List (List UInt8)) (fails : Bool) : List Chunk :=
  lines.map data ++ if fails then [failure] else []

/-- A whole file, a chunk for each line. -/
def ofBytes (bytes : List UInt8) : List Chunk := (splitLines bytes).map data

/-- A whole script held in memory, a chunk for each line. -/
def ofText (text : String) : List Chunk := ofBytes (textBytes text)

end Chunk

end RouteScript
