/-!
The tokens of a configuration document.

Documents are written in a subset of YAML 1.1: block mappings and sequences by
indentation, flow collections in brackets, plain and quoted scalars, comments, one
document. There are no anchors, tags, directives or block scalars.

Block structure is made explicit here: a token opens each block collection and
`blockEnd` closes it. That something is a mapping key shows only at the colon
behind it, so the scanner notes where a key may have begun (`PossibleKey`) and
inserts the tokens for it in front once the colon is met.
-/

namespace RouteScript.Document

/-- What is wrong with a document. -/
inductive Malformed where
  | unprintable
  | noToken
  | keyWithoutColon
  | misplacedKey
  | misplacedEntry
  | unclosedQuote
  | separatorInQuote
  | unknownEscape
  /-- An escape with a code that no character has. -/
  | noCharacter (code : Nat)
  | unexpectedToken
  | unclosedCollection
  | collectionAsKey
  | secondDocument
  deriving DecidableEq, Repr

/-- The wording of a fault. -/
def Malformed.message : Malformed → String
  | unprintable => "a character that may not occur"
  | noToken => "a character that starts nothing"
  | keyWithoutColon => "a key without its colon"
  | misplacedKey => "a mapping where none may start"
  | misplacedEntry => "a sequence where none may start"
  | unclosedQuote => "a quote that is not closed"
  | separatorInQuote => "a document end within quotes"
  | unknownEscape => "an unknown escape"
  | noCharacter _ => "a code beyond the last character"
  | unexpectedToken => "something out of place"
  | unclosedCollection => "a collection that is not closed"
  | collectionAsKey => "a collection as a key"
  | secondDocument => "more than one document"

/-- The tokens of a document. -/
inductive Token where
  | documentStart
  | documentEnd
  | blockSequenceStart
  | blockMappingStart
  | blockEnd
  | flowSequenceStart
  | flowSequenceEnd
  | flowMappingStart
  | flowMappingEnd
  | blockEntry
  | flowEntry
  | key
  | value
  | scalar (text : String) (plain : Bool)
  deriving DecidableEq, Repr

/-! ### Characters -/

/-- The characters that may occur in a document. -/
def isAllowed (c : Char) : Bool :=
  let n := c.toNat
  n = 9 || n = 10 || n = 13 || (0x20 ≤ n && n ≤ 0x7E) || n = 0x85 ||
    (0xA0 ≤ n && n ≤ 0xD7FF) || (0xE000 ≤ n && n ≤ 0xFFFD) || 0x10000 ≤ n

/-- The characters that end a line. -/
def isBreak (c : Char) : Bool :=
  c = '\n' || c = '\r' || c = '\x85' || c = '\u2028' || c = '\u2029'

/-- Whether a word ends in front of what follows: a blank, a tab, a line end, or
nothing at all. -/
def endsWord : Option Char → Bool
  | none => true
  | some c => c = ' ' || c = '\t' || isBreak c

/-- Three equal characters that stand for the start or the end of a document. -/
def isSeparator (mark : Char) : List Char → Bool
  | a :: b :: c :: rest => a = mark && b = mark && c = mark && endsWord rest.head?
  | _ => false

/-- What a line end in a scalar stands for. -/
def breakText : List Char → List Char
  | '\u2028' :: _ => ['\u2028']
  | '\u2029' :: _ => ['\u2029']
  | _ => ['\n']

/-- How many characters a line end has. -/
def breakLength : List Char → Nat
  | '\r' :: '\n' :: _ => 2
  | _ => 1

/-! ### Scanning -/

/-- A place where a mapping key may have begun. -/
structure PossibleKey where
  /-- How many collections in brackets are open there. -/
  depth : Nat
  /-- How many tokens were read before it. -/
  place : Nat
  index : Nat
  line : Nat
  column : Nat
  /-- Nothing but a key can stand here. -/
  required : Bool
  deriving DecidableEq, Repr

/-- The scanner between two tokens. -/
structure Scanner where
  rest : List Char
  index : Nat := 0
  line : Nat := 0
  column : Nat := 0
  /-- How many collections in brackets are open. -/
  depth : Nat := 0
  /-- The column of the current block collection; -1 outside of all. -/
  indent : Int := -1
  /-- The columns of the block collections around it. -/
  indents : List Int := []
  /-- Whether a key may begin here. -/
  keyAllowed : Bool := true
  keys : List PossibleKey := []
  tokens : Array Token := #[]
  deriving Repr

namespace Scanner

/-- The next character. -/
def peek (s : Scanner) : Option Char := s.rest.head?

/-- Passes one character. -/
def pass (s : Scanner) : Scanner :=
  match s.rest with
  | [] => s
  | c :: rest =>
    let s := { s with rest, index := s.index + 1 }
    if isBreak c && !(c = '\r' && rest.head? = some '\n') then
      { s with line := s.line + 1, column := 0 }
    else if c = '\uFEFF' then s
    else { s with column := s.column + 1 }

/-- Passes `n` characters. -/
def forward (s : Scanner) : (n : Nat) → Scanner
  | 0 => s
  | n + 1 => s.pass.forward n

/-- Appends a token. -/
def push (s : Scanner) (t : Token) : Scanner := { s with tokens := s.tokens.push t }

/-- Appends a token of `n` characters. -/
def pushMark (s : Scanner) (t : Token) (n : Nat) : Scanner := (s.push t).forward n

/-- Whether a document starts or ends here. -/
def atSeparator (s : Scanner) : Bool := isSeparator '-' s.rest || isSeparator '.' s.rest

/-- Passes blanks, comments and line ends; outside of brackets a key may begin on
a new line. -/
def toNextToken : (fuel : Nat) → (comment : Bool) → Scanner → Scanner
  | 0, _, s => s
  | fuel + 1, comment, s =>
    match s.peek with
    | none => s
    | some c =>
      if isBreak c then
        toNextToken fuel false { s.pass with keyAllowed := s.keyAllowed || s.depth = 0 }
      else if comment || c = ' ' then toNextToken fuel comment s.pass
      else if c = '#' then toNextToken fuel true s.pass
      else s

/-! ### Indentation and keys -/

/-- Closes the block collections that are indented more than `column`. -/
def unwind (column : Int) (s : Scanner) : Scanner :=
  if s.depth = 0 then
    let rec close (s : Scanner) : List Int → Scanner
      | [] => s
      | outer :: indents =>
        if column < s.indent then close ({ s with indent := outer, indents }.push .blockEnd) indents
        else s
    close s s.indents
  else s

/-- Opens a block collection at a column that is indented more than the current
one; `start` is its token, to be put at `place`. -/
def openBlock (column place : Nat) (start : Token) (s : Scanner) : Scanner :=
  if s.indent < column then
    { s with
      indent := column, indents := s.indent :: s.indents,
      tokens := s.tokens.insertIdxIfInBounds place start }
  else s

/-- Forgets the keys that lie on an earlier line or too far back. -/
def dropStale (s : Scanner) : Except Malformed Scanner :=
  let stale (k : PossibleKey) : Bool := k.line != s.line || s.index - k.index > 1024
  if s.keys.any fun k => stale k && k.required then .error .keyWithoutColon
  else .ok { s with keys := s.keys.filter (! stale ·) }

/-- Forgets the key that may have begun at the current depth. -/
def dropKey (s : Scanner) : Except Malformed Scanner :=
  if s.keys.any fun k => k.depth = s.depth && k.required then .error .keyWithoutColon
  else .ok { s with keys := s.keys.filter (·.depth != s.depth) }

/-- Notes that a key may begin here. -/
def saveKey (s : Scanner) : Except Malformed Scanner :=
  if s.keyAllowed then do
    let s ← s.dropKey
    let key : PossibleKey :=
      { depth := s.depth, place := s.tokens.size, index := s.index, line := s.line,
        column := s.column, required := s.depth = 0 && s.indent = s.column }
    return { s with keys := key :: s.keys }
  else .ok s

/-! ### Scalars -/

/-- How many characters the next piece of a plain scalar has. -/
def plainLength (flow : Bool) : List Char → Nat
  | [] => 0
  | c :: rest =>
    let next := rest.head?
    let colon := c = ':' && (endsWord next || (flow && (next.any (",[]\x7b\x7d".contains ·))))
    if endsWord (some c) || colon || (flow && ",?[]\x7b\x7d".contains c) then 0
    else plainLength flow rest + 1

/-- Blanks and line ends between two lines of a plain scalar; `breaks` holds the
text of those read before. Nothing is returned where the document ends. -/
def plainBreaks : (fuel : Nat) → (breaks : List Char) → Scanner → Option (List Char) × Scanner
  | 0, breaks, s => (some breaks, s)
  | fuel + 1, breaks, s =>
    match s.peek with
    | none => (some breaks, s)
    | some c =>
      if c = ' ' then plainBreaks fuel breaks s.pass
      else if isBreak c then
        let after := s.forward (breakLength s.rest)
        if after.atSeparator then (none, after)
        else plainBreaks fuel (breaks ++ breakText s.rest) after
      else (some breaks, s)

/-- The text of a line end followed by more line ends: a single one is a blank. -/
def folded (first breaks : List Char) : List Char :=
  if first = ['\n'] then (if breaks.isEmpty then [' '] else breaks) else first ++ breaks

/-- The blanks behind a piece of a plain scalar, as they count if another piece
follows; empty if none can follow. -/
def plainSpaces (s : Scanner) : List Char × Scanner :=
  let blanks := s.rest.takeWhile (· = ' ')
  let s := s.forward blanks.length
  match s.peek with
  | none => (blanks, s)
  | some c =>
    if isBreak c then
      let after := { s.forward (breakLength s.rest) with keyAllowed := true }
      if after.atSeparator then ([], after)
      else
        match plainBreaks after.rest.length [] after with
        | (some breaks, t) => (folded (breakText s.rest) breaks, t)
        | (none, t) => ([], t)
    else (blanks, s)

/-- A plain scalar; `text` is what was read of it and `spaces` what lies between
that and the next piece. -/
def plain : (fuel : Nat) → (text spaces : List Char) → Scanner → List Char × Scanner
  | 0, text, _, s => (text, s)
  | fuel + 1, text, spaces, s =>
    let n := plainLength (s.depth != 0) s.rest
    if s.peek = some '#' || n = 0 then (text, s)
    else
      let text := text ++ spaces ++ s.rest.take n
      let (spaces, t) := plainSpaces { s.forward n with keyAllowed := false }
      let outdented := t.depth = 0 && t.column < s.indent + 1
      if spaces.isEmpty || t.peek = some '#' || outdented then (text, t)
      else plain fuel text spaces t

/-- The character that a letter behind a backslash stands for. -/
def escaped? (c : Char) : Option Char :=
  [('0', '\x00'), ('a', '\x07'), ('b', '\x08'), ('t', '\t'), ('\t', '\t'), ('n', '\n'),
   ('v', '\x0b'), ('f', '\x0c'), ('r', '\r'), ('e', '\x1b'), (' ', ' '), ('"', '"'),
   ('\\', '\\'), ('/', '/'), ('N', '\x85'), ('_', '\xa0'), ('L', '\u2028'),
   ('P', '\u2029')].lookup c

/-- How many hexadecimal digits follow a letter behind a backslash. -/
def escapeWidth? (c : Char) : Option Nat := [('x', 2), ('u', 4), ('U', 8)].lookup c

/-- The value of a hexadecimal digit. -/
def hexValue? (c : Char) : Option Nat :=
  if c.isDigit then some (c.toNat - 48)
  else if 'a' ≤ c && c ≤ 'f' then some (c.toNat - 87)
  else if 'A' ≤ c && c ≤ 'F' then some (c.toNat - 55)
  else none

/-- The character with a code of exactly `width` hexadecimal digits. Half of a
surrogate pair is none; the replacement character stands for it. -/
def hexChar (width : Nat) (cs : List Char) : Except Malformed Char :=
  match (cs.take width).mapM hexValue? with
  | none => .error .unknownEscape
  | some digits =>
    let code := digits.foldl (fun n d => n * 16 + d) 0
    if digits.length < width then .error .unknownEscape
    else if 0x110000 ≤ code then .error (.noCharacter code)
    else .ok (if code.isValidChar then Char.ofNat code else '\uFFFD')

/-- Blanks and line ends at the start of lines within quotes; `breaks` holds the
text of those read before. -/
def quotedBreaks : (fuel : Nat) → (breaks : List Char) → Scanner →
    Except Malformed (List Char × Scanner)
  | 0, breaks, s => .ok (breaks, s)
  | fuel + 1, breaks, s =>
    if s.atSeparator then .error .separatorInQuote
    else
      let s := s.forward (s.rest.takeWhile fun c => c = ' ' || c = '\t').length
      match s.peek with
      | none => .ok (breaks, s)
      | some c =>
        if isBreak c then
          quotedBreaks fuel (breaks ++ breakText s.rest) (s.forward (breakLength s.rest))
        else .ok (breaks, s)

/-- The rest of a quoted scalar; `text` is what was read of it, last character
first. -/
def quoted (quote : Char) : (fuel : Nat) → (text : List Char) → Scanner →
    Except Malformed (List Char × Scanner)
  | 0, _, _ => .error .unclosedQuote
  | fuel + 1, text, s =>
    match s.rest with
    | [] => .error .unclosedQuote
    | c :: next =>
      if c = quote then
        if quote = '\'' && next.head? = some '\'' then quoted quote fuel (c :: text) (s.forward 2)
        else .ok (text.reverse, s.pass)
      else if c = '\\' && quote = '"' then
        match next with
        | [] => .error .unknownEscape
        | e :: code =>
          if isBreak e then do
            let (breaks, s) ← quotedBreaks s.rest.length [] (s.pass.forward (breakLength next))
            quoted quote fuel (breaks.reverse ++ text) s
          else match escaped? e, escapeWidth? e with
            | some c, _ => quoted quote fuel (c :: text) (s.forward 2)
            | none, some width =>
              match hexChar width code with
              | .ok c => quoted quote fuel (c :: text) (s.forward (2 + width))
              | .error m => .error m
            | none, none => .error .unknownEscape
      else if endsWord (some c) then
        let blanks := s.rest.takeWhile fun c => c = ' ' || c = '\t'
        let s := s.forward blanks.length
        if s.peek.any isBreak then do
          let (breaks, t) ← quotedBreaks s.rest.length [] (s.forward (breakLength s.rest))
          quoted quote fuel ((folded (breakText s.rest) breaks).reverse ++ text) t
        else quoted quote fuel (blanks.reverse ++ text) s
      else quoted quote fuel (c :: text) s.pass

/-! ### Tokens -/

/-- Whether a plain scalar starts here. -/
def startsPlain (flow : Bool) (c : Char) (next : Option Char) : Bool :=
  !("-?:,[]\x7b\x7d#&*!|>'\"%@`".contains c) ||
    (!endsWord next && (c = '-' || (!flow && (c = '?' || c = ':'))))

/-- The start or the end of a document. -/
def separator (t : Token) (s : Scanner) : Except Malformed Scanner := do
  let s ← (s.unwind (-1)).dropKey
  return { s with keyAllowed := false }.pushMark t 3

/-- The opening bracket of a collection. -/
def openFlow (t : Token) (s : Scanner) : Except Malformed Scanner := do
  let s ← s.saveKey
  return { s with depth := s.depth + 1, keyAllowed := true }.pushMark t 1

/-- The closing bracket of a collection. -/
def closeFlow (t : Token) (s : Scanner) : Except Malformed Scanner := do
  let s ← s.dropKey
  if s.depth = 0 then throw .unexpectedToken
  return { s with depth := s.depth - 1, keyAllowed := false }.pushMark t 1

/-- The comma between the items of a collection in brackets. -/
def flowEntry (s : Scanner) : Except Malformed Scanner := do
  let s ← { s with keyAllowed := true }.dropKey
  return s.pushMark .flowEntry 1

/-- The dash in front of the item of a block sequence. -/
def blockEntry (s : Scanner) : Except Malformed Scanner := do
  if s.depth = 0 && !s.keyAllowed then throw .misplacedEntry
  let s := if s.depth = 0 then s.openBlock s.column s.tokens.size .blockSequenceStart else s
  let s ← { s with keyAllowed := true }.dropKey
  return s.pushMark .blockEntry 1

/-- The question mark in front of a key. -/
def explicitKey (s : Scanner) : Except Malformed Scanner := do
  if s.depth = 0 && !s.keyAllowed then throw .misplacedKey
  let s := if s.depth = 0 then s.openBlock s.column s.tokens.size .blockMappingStart else s
  let s ← { s with keyAllowed := s.depth = 0 }.dropKey
  return s.pushMark .key 1

/-- The colon in front of a value. -/
def value (s : Scanner) : Except Malformed Scanner := do
  match s.keys.find? (·.depth = s.depth) with
  | some k =>
    let s := { s with
      keys := s.keys.filter (·.depth != s.depth), keyAllowed := false,
      tokens := s.tokens.insertIdxIfInBounds k.place .key }
    let s := if s.depth = 0 then s.openBlock k.column k.place .blockMappingStart else s
    return s.pushMark .value 1
  | none =>
    if s.depth = 0 && !s.keyAllowed then throw .misplacedKey
    let s := if s.depth = 0 then s.openBlock s.column s.tokens.size .blockMappingStart else s
    let s ← { s with keyAllowed := s.depth = 0 }.dropKey
    return s.pushMark .value 1

/-- A quoted scalar. -/
def quotedScalar (quote : Char) (s : Scanner) : Except Malformed Scanner := do
  let s ← s.saveKey
  let (text, s) ← quoted quote s.rest.length [] { s.pass with keyAllowed := false }
  return s.push (.scalar (String.ofList text) false)

/-- A plain scalar. -/
def plainScalar (s : Scanner) : Except Malformed Scanner := do
  let s ← s.saveKey
  let (text, s) := plain s.rest.length [] [] { s with keyAllowed := false }
  return s.push (.scalar (String.ofList text) true)

/-- The token that starts with character `c`. -/
def token (c : Char) (s : Scanner) : Except Malformed Scanner :=
  let next := (s.rest.drop 1).head?
  let flow := s.depth != 0
  if s.column = 0 && isSeparator '-' s.rest then s.separator .documentStart
  else if s.column = 0 && isSeparator '.' s.rest then s.separator .documentEnd
  else if s.column = 0 && c = '%' then .error .noToken
  else if c = '[' then s.openFlow .flowSequenceStart
  else if c = '\x7b' then s.openFlow .flowMappingStart
  else if c = ']' then s.closeFlow .flowSequenceEnd
  else if c = '\x7d' then s.closeFlow .flowMappingEnd
  else if c = ',' then s.flowEntry
  else if c = '-' && endsWord next then s.blockEntry
  else if c = '?' && (flow || endsWord next) then s.explicitKey
  else if c = ':' && (flow || endsWord next) then s.value
  else if c = '\'' || c = '"' then s.quotedScalar c
  else if !endsWord (some c) && startsPlain flow c next then s.plainScalar
  else .error .noToken

/-- Reads tokens to the end; every round passes a character. -/
def finish : (fuel : Nat) → Scanner → Except Malformed (Array Token)
  | 0, s => .ok s.tokens
  | fuel + 1, s => do
    let s ← (toNextToken s.rest.length false s).dropStale
    let s := s.unwind s.column
    match s.peek with
    | none =>
      let s ← (s.unwind (-1)).dropKey
      return s.tokens
    | some c => finish fuel (← s.token c)

end Scanner

/-- The tokens of a document. A byte order mark in front is passed over. -/
def Token.ofText (text : String) : Except Malformed (List Token) :=
  let cs := text.toList
  if cs.all isAllowed then
    let rest := if cs.head? = some '\uFEFF' then cs.drop 1 else cs
    (Scanner.finish (rest.length + 1) { rest }).map (·.toList)
  else .error .unprintable

end RouteScript.Document
