import RouteScript.Document.Token

/-!
The structure of a document: scalars, sequences and mappings.

A node is read from a list of tokens, which it shortens. Where a node may be
missing, an empty plain scalar takes its place. The readers call each other with
less fuel each time; three units a token are more than they ever need.
-/

namespace RouteScript.Document

/-- A part of a document. -/
inductive Node where
  | scalar (text : String) (plain : Bool)
  | sequence (items : List Node)
  | mapping (entries : List (Node × Node))

namespace Node

/-- What stands where nothing is written. -/
def nothing : Node := .scalar "" true

/-- Whether the next token is one of `stops`, or there is none. -/
def stopsAt (stops : List Token) (ts : List Token) : Bool :=
  match ts with
  | [] => true
  | t :: _ => stops.contains t

/-- Puts an item in front of a sequence. -/
def addItem (item : Node) : Node × List Token → Except Malformed (Node × List Token)
  | (.sequence items, rest) => .ok (.sequence (item :: items), rest)
  | _ => .error .unexpectedToken

/-- Puts an entry in front of a mapping. -/
def addEntry (entry : Node × Node) : Node × List Token → Except Malformed (Node × List Token)
  | (.mapping entries, rest) => .ok (.mapping (entry :: entries), rest)
  | _ => .error .unexpectedToken

mutual

/-- A node. Block collections occur only outside of brackets (`block`); a sequence
that is the value in a mapping need not be indented (`flat`). -/
def read : (fuel : Nat) → (block flat : Bool) → List Token → Except Malformed (Node × List Token)
  | 0, _, _, _ => .error .unexpectedToken
  | fuel + 1, block, flat, ts =>
    match ts with
    | .scalar text plain :: rest => .ok (.scalar text plain, rest)
    | .flowSequenceStart :: rest => readFlowItems fuel true rest
    | .flowMappingStart :: rest => readFlowEntries fuel true rest
    | .blockSequenceStart :: rest =>
      if block then do
        let (items, rest) ← readItems fuel rest
        match rest with
        | .blockEnd :: rest => return (.sequence items, rest)
        | _ => throw .unclosedCollection
      else .error .unexpectedToken
    | .blockMappingStart :: rest => if block then readEntries fuel rest else .error .unexpectedToken
    | .blockEntry :: _ =>
      if flat then do
        let (items, rest) ← readFlatItems fuel ts
        return (.sequence items, rest)
      else .error .unexpectedToken
    | _ => .error .unexpectedToken

/-- A node, or nothing where one of `stops` is next. -/
def readUnless : (fuel : Nat) → (stops : List Token) → (block flat : Bool) → List Token →
    Except Malformed (Node × List Token)
  | 0, _, _, _, _ => .error .unexpectedToken
  | fuel + 1, stops, block, flat, ts =>
    if stopsAt stops ts then .ok (nothing, ts) else read fuel block flat ts

/-- The items of an indented sequence. -/
def readItems : (fuel : Nat) → List Token → Except Malformed (List Node × List Token)
  | 0, _ => .error .unexpectedToken
  | fuel + 1, ts =>
    match ts with
    | .blockEntry :: rest => do
      let (item, rest) ← readUnless fuel [.blockEntry, .blockEnd] true false rest
      let (items, rest) ← readItems fuel rest
      return (item :: items, rest)
    | _ => .ok ([], ts)

/-- The items of a sequence that is not indented. -/
def readFlatItems : (fuel : Nat) → List Token → Except Malformed (List Node × List Token)
  | 0, _ => .error .unexpectedToken
  | fuel + 1, ts =>
    match ts with
    | .blockEntry :: rest => do
      let (item, rest) ← readUnless fuel [.blockEntry, .key, .value, .blockEnd] true false rest
      let (items, rest) ← readFlatItems fuel rest
      return (item :: items, rest)
    | _ => .ok ([], ts)

/-- The entries of an indented mapping, and the end of it. -/
def readEntries : (fuel : Nat) → List Token → Except Malformed (Node × List Token)
  | 0, _ => .error .unexpectedToken
  | fuel + 1, ts => do
    let (entries, rest) ← readPairs fuel ts
    match rest with
    | .blockEnd :: rest => return (.mapping entries, rest)
    | _ => throw .unclosedCollection

/-- The entries of an indented mapping. Behind the mark of a key the key itself may
be missing, and so may the value. -/
def readPairs : (fuel : Nat) → List Token → Except Malformed (List (Node × Node) × List Token)
  | 0, _ => .error .unexpectedToken
  | fuel + 1, ts =>
    match ts with
    | .key :: rest => do
      let stops := [Token.key, .value, .blockEnd]
      let (key, ts) ← readUnless fuel stops true true rest
      let (v, ts) ← match ts with
        | .value :: rest => readUnless fuel stops true true rest
        | _ => pure (nothing, ts)
      let (entries, rest) ← readPairs fuel ts
      return ((key, v) :: entries, rest)
    | _ => .ok ([], ts)

/-- The items of a sequence in brackets; one with a key is a mapping of its own. -/
def readFlowItems : (fuel : Nat) → (first : Bool) → List Token →
    Except Malformed (Node × List Token)
  | 0, _, _ => .error .unexpectedToken
  | fuel + 1, first, ts =>
    match ts with
    | .flowSequenceEnd :: rest => .ok (.sequence [], rest)
    | _ => do
      let ts ← if first then pure ts else match ts with
        | .flowEntry :: rest => pure rest
        | _ => throw .unclosedCollection
      let stops := [Token.value, .flowEntry, .flowSequenceEnd]
      match ts with
      | .flowSequenceEnd :: rest => return (.sequence [], rest)
      | .key :: rest =>
        let (key, ts) ← readUnless fuel stops false false rest
        let (v, ts) ← match ts with
          | .value :: rest => readUnless fuel stops.tail false false rest
          | _ => pure (nothing, ts)
        addItem (.mapping [(key, v)]) (← readFlowItems fuel false ts)
      | _ =>
        let (item, ts) ← read fuel false false ts
        addItem item (← readFlowItems fuel false ts)

/-- The entries of a mapping in brackets; one without a colon has no value. -/
def readFlowEntries : (fuel : Nat) → (first : Bool) → List Token →
    Except Malformed (Node × List Token)
  | 0, _, _ => .error .unexpectedToken
  | fuel + 1, first, ts =>
    match ts with
    | .flowMappingEnd :: rest => .ok (.mapping [], rest)
    | _ => do
      let ts ← if first then pure ts else match ts with
        | .flowEntry :: rest => pure rest
        | _ => throw .unclosedCollection
      let stops := [Token.value, .flowEntry, .flowMappingEnd]
      match ts with
      | .flowMappingEnd :: rest => return (.mapping [], rest)
      | .key :: rest =>
        let (key, ts) ← readUnless fuel stops false false rest
        let (v, ts) ← match ts with
          | .value :: rest => readUnless fuel stops.tail false false rest
          | _ => pure (nothing, ts)
        addEntry (key, v) (← readFlowEntries fuel false ts)
      | _ =>
        let (key, ts) ← read fuel false false ts
        addEntry (key, nothing) (← readFlowEntries fuel false ts)

end

/-- Passes the ends of a document; nothing else may follow one. -/
def readEnd : List Token → Except Malformed Unit
  | [] => .ok ()
  | .documentEnd :: rest => readEnd rest
  | .documentStart :: _ => .error .secondDocument
  | _ => .error .unexpectedToken

/-- The root of a document, if there is one. -/
def ofTokens? (ts : List Token) : Except Malformed (Option Node) :=
  let fuel := 3 * ts.length + 3
  match ts with
  | [] => .ok none
  | .documentStart :: rest => do
    let (root, rest) ← readUnless fuel [.documentStart, .documentEnd] true false rest
    readEnd rest
    return some root
  | _ => do
    let (root, rest) ← read fuel true false ts
    readEnd rest
    return some root

end Node

end RouteScript.Document
