import RouteScript.Proofs.Parser.Blocks
import RouteScript.Parser.Total

/-!
The parser stays within its tokens.

A `Walk` is the parser over the whole list of tokens. It asks for a token by its place: for the
one at the cursor, or for the one in front of it. Both fail where there is no such token
(`Stray`), the second also with the cursor at the first token, and with that the whole walk
fails. So a walk that has a result never asked for a token out of place.

Every step of a walk is a step of the parser that holds what is left of the tokens, seen through
`Walk.view`, and the parser fails where the walk does (`Walk.seen_current`,
`Walk.seen_unexpected`). As the parser never fails, neither does a walk (`Walk.parse_isOk`).
That each turn of the loop passes a token carries over in the same way
(`Walk.cursor_parseStatement`).
-/

namespace RouteScript

open RouteScript.Parser (valueExpected defaultStatus)

/-- A token was asked for that is not there. -/
inductive Stray where
  /-- The current token, with the cursor behind the last one. -/
  | current (cursor : Nat)
  /-- The token in front of the current one, with the cursor at the first. -/
  | previous (cursor : Nat)
  deriving DecidableEq, Repr

/-- The state of a parser that finds its tokens by their places. -/
structure Walk where
  /-- The place of the current token. -/
  cursor : Nat := 0
  emitted : List Instruction := []
  declared : List String := []
  diagnostics : Diagnostics

namespace Walk

variable (tokens : List Token)

/-! ### Primitive steps -/

/-- The current token. -/
def current (w : Walk) : Except Stray Token :=
  if inside : w.cursor < tokens.length then .ok tokens[w.cursor] else .error (.current w.cursor)

/-- The token in front of the current one. -/
def previous (w : Walk) : Except Stray Token :=
  if inside : 1 ≤ w.cursor ∧ w.cursor ≤ tokens.length then .ok tokens[w.cursor - 1]
  else .error (.previous w.cursor)

/-- Passes the current token. -/
def next (w : Walk) : Walk := { w with cursor := w.cursor + 1 }

/-- Appends an instruction to the program. -/
def emit (w : Walk) (i : Instruction) : Walk := { w with emitted := i :: w.emitted }

/-- Notes that a name has a value. -/
def declare (w : Walk) (name : String) : Walk :=
  if w.declared.contains name then w else { w with declared := name :: w.declared }

/-- Records an error. -/
def report (w : Walk) (d : Diagnostic) : Walk := { w with diagnostics := w.diagnostics.push d }

/-- Whether a token follows the current one; without one the current token is reported on and
passed. -/
def checkNearEnd (expected : String) (w : Walk) : Except Stray (Bool × Walk) :=
  if tokens.length ≤ w.cursor + 1 then do
    let t ← w.current tokens
    return (false, (w.report (.expectedToken t.loc.stop expected)).next)
  else return (true, w)

/-- Records that the current token is out of place. -/
def unexpected (expected : String) (w : Walk) : Except Stray Walk := do
  let after ←
    if 0 < w.cursor then (w.previous tokens).map (·.loc.stop)
    else (w.current tokens).map (·.loc.start)
  let t ← w.current tokens
  return w.report (.unexpectedToken t.loc expected after)

theorem cursor_checkNearEnd {expected : String} {w w' : Walk} {near : Bool}
    (h : w.checkNearEnd tokens expected = .ok (near, w')) : w.cursor ≤ w'.cursor := by
  unfold checkNearEnd at h
  split at h
  · obtain ⟨t, -, h⟩ := ok_of_bind h
    cases h
    exact Nat.le_succ _
  · cases h
    exact Nat.le_refl _

/-! ### Values -/

mutual

/-- The rest of a value behind an operand. -/
def parsePlus (w : Walk) : Except Stray Walk :=
  if _ : tokens.length ≤ w.cursor then .ok w
  else do
    let t ← w.current tokens
    if t.kind = .plus then
      match _ : w.checkNearEnd tokens valueExpected with
      | .error e => .error e
      | .ok (false, w') => .ok w'
      | .ok (true, w') =>
        let (found, w'') ← parseValue w'.next
        return if found then w''.emit .concatenate else w''
    else return w
termination_by tokens.length - w.cursor
decreasing_by
  have kept := cursor_checkNearEnd tokens ‹_›
  simp only [next]
  omega

/-- A value, and whether there was one. -/
def parseValue (w : Walk) : Except Stray (Bool × Walk) :=
  if _ : tokens.length ≤ w.cursor then .ok (false, w)
  else do
    let t ← w.current tokens
    match t.kind with
    | .string => return (true, ← parsePlus (w.emit (.pushLiteral t.text)).next)
    | .identifier =>
      if w.declared.contains t.text then
        return (true, ← parsePlus (w.emit (.readVariable t.text)).next)
      else return (false, (w.report (.nullVariable t.loc t.text)).next)
    | _ => return (false, ← w.unexpected tokens valueExpected)
termination_by tokens.length - w.cursor
decreasing_by all_goals
  simp only [next, emit]
  omega

end

/-! ### Statements -/

/-- A name and the value that is bound to it. -/
def parseAssignment (w : Walk) : Except Stray Walk := do
  let (near, w) ← w.checkNearEnd tokens "a token"
  if near then
    let name := (← w.current tokens).text
    let w := w.next
    if (← w.current tokens).kind = .equals then
      let (near, w) ← w.checkNearEnd tokens valueExpected
      if near then
        let (found, w) ← w.next.parseValue tokens
        return if found then (w.declare name).emit (.bindVariable name) else w
      else return w
    else w.unexpected tokens "an equal sign"
  else return w

/-- A value to show. -/
def parsePrint (w : Walk) : Except Stray Walk := do
  let (near, w) ← w.checkNearEnd tokens valueExpected
  if near then
    let (found, w) ← w.next.parseValue tokens
    return if found then w.emit .print else w
  else return w

/-- The body of a request, and whether there is one. -/
def parseBody (w : Walk) : Except Stray (Bool × Walk) :=
  if tokens.length ≤ w.cursor then .ok (false, w)
  else do
    let t ← w.current tokens
    if t.kind = .body then
      let (near, w) ← w.checkNearEnd tokens valueExpected
      if near then w.next.parseValue tokens else return (false, w)
    else return (false, w)

/-- The expected status of a request. -/
def parseStatus (w : Walk) : Except Stray Walk :=
  if tokens.length ≤ w.cursor then .ok (w.emit (.pushLiteral defaultStatus))
  else do
    let t ← w.current tokens
    return if t.kind = .number then (w.emit (.pushLiteral t.text)).next
      else w.emit (.pushLiteral defaultStatus)

/-- What becomes of the reply. -/
def parseReplyUse (method : Method) (hasBody : Bool) (w : Walk) : Except Stray Walk :=
  if tokens.length ≤ w.cursor then .ok (w.emit (.request ⟨.discard, method, hasBody⟩))
  else do
    let t ← w.current tokens
    match t.kind with
    | .equals =>
      let (near, w) ← w.checkNearEnd tokens "a variable name"
      if near then
        let w := w.next
        let name ← w.current tokens
        if name.kind = .identifier then
          let w := w.emit (.request ⟨.capture, method, hasBody⟩)
          return ((w.emit (.bindVariable name.text)).declare name.text).next
        else w.unexpected tokens "a variable name"
      else return w
    | .question =>
      let (near, w) ← w.checkNearEnd tokens valueExpected
      if near then
        let (found, w) ← w.next.parseValue tokens
        return if found then w.emit (.request ⟨.compare, method, hasBody⟩) else w
      else return w
    | _ => return w.emit (.request ⟨.discard, method, hasBody⟩)

/-- A request. -/
def parseRequest (method : Method) (w : Walk) : Except Stray Walk := do
  let (near, w) ← w.checkNearEnd tokens valueExpected
  if near then
    let (found, w) ← w.next.parseValue tokens
    if found then
      let (hasBody, w) ← w.parseBody tokens
      let w ← w.parseStatus tokens
      w.parseReplyUse tokens method hasBody
    else return w
  else return w

/-- The statement that starts with token `t`, the current one. -/
def parseStatement (t : Token) (w : Walk) : Except Stray Walk :=
  match t.kind with
  | .identifier => w.parseAssignment tokens
  | .print => w.parsePrint tokens
  | .string => .ok (w.report (.noParse t.loc.start ("\"" ++ t.text ++ "\""))).next
  | kind =>
    match kind.method? with
    | some method => w.parseRequest tokens method
    | none => .ok (w.report (.noParse t.loc.start t.text)).next

/-! ### The same parser -/

/-- The parser that holds the tokens themselves. -/
def view (w : Walk) : Parser where
  cursor := w.cursor
  previous := if w.cursor = 0 then none else tokens[w.cursor - 1]?
  rest := tokens.drop w.cursor
  emitted := w.emitted
  declared := w.declared
  diagnostics := w.diagnostics

/-- What a step comes to for the parser that holds the tokens. -/
def seen {α β : Type} (f : α → β) (x : Except Stray α) : Except PastEnd β :=
  (x.map f).mapError fun _ => .pastEnd

/-- A result together with a parser. -/
def viewed {α : Type} (r : α × Walk) : α × Parser := (r.1, r.2.view tokens)

variable {tokens}

theorem ok_bind {α β : Type} (a : α) (f : α → Except Stray β) : (Except.ok a >>= f) = f a := rfl

theorem seen_bind {α β α' β' : Type} {x : Except Stray α} {y : Except PastEnd α'} {f : α → α'}
    {h : β → β'} {g : α → Except Stray β} {k : α' → Except PastEnd β'} (same : seen f x = y)
    (behind : ∀ a, x = .ok a → seen h (g a) = k (f a)) : seen h (x >>= g) = (y >>= k) := by
  subst same
  cases x with
  | error e => rfl
  | ok a => exact behind a rfl

@[simp] theorem view_next (w : Walk) : (w.view tokens).next = w.next.view tokens := by
  simp [view, next, Parser.next]

@[simp] theorem view_emit (w : Walk) (i : Instruction) :
    (w.view tokens).emit i = (w.emit i).view tokens := rfl

@[simp] theorem view_report (w : Walk) (d : Diagnostic) :
    (w.view tokens).report d = (w.report d).view tokens := rfl

@[simp] theorem view_declare (w : Walk) (name : String) :
    (w.view tokens).declare name = (w.declare name).view tokens := by
  unfold declare Parser.declare
  split <;> split <;> simp_all [view]

theorem view_rest_of_end {w : Walk} (done : tokens.length ≤ w.cursor) :
    (w.view tokens).rest = [] := List.drop_eq_nil_of_le done

theorem view_rest_of_inside {w : Walk} (inside : w.cursor < tokens.length) :
    (w.view tokens).rest = tokens[w.cursor] :: tokens.drop (w.cursor + 1) :=
  List.drop_eq_getElem_cons inside

theorem current_of_inside {w : Walk} (inside : w.cursor < tokens.length) :
    w.current tokens = .ok tokens[w.cursor] := dif_pos inside

theorem inside_of_current {w : Walk} {t : Token} (h : w.current tokens = .ok t) :
    ∃ inside : w.cursor < tokens.length, tokens[w.cursor] = t := by
  by_cases inside : w.cursor < tokens.length
  · rw [current_of_inside inside] at h
    exact ⟨inside, Except.ok.inj h⟩
  · rw [current, dif_neg inside] at h
    cases h

theorem behind_of_previous {w : Walk} {t : Token} (h : w.previous tokens = .ok t) :
    1 ≤ w.cursor ∧ w.cursor ≤ tokens.length := by
  by_cases inside : 1 ≤ w.cursor ∧ w.cursor ≤ tokens.length
  · exact inside
  · rw [previous, dif_neg inside] at h
    cases h

theorem seen_current (w : Walk) : seen id (w.current tokens) = (w.view tokens).current := by
  unfold current Parser.current
  by_cases inside : w.cursor < tokens.length
  · rw [dif_pos inside, view_rest_of_inside inside]
    rfl
  · rw [dif_neg inside, view_rest_of_end (Nat.le_of_not_lt inside)]
    rfl

theorem seen_checkNearEnd (expected : String) (w : Walk) :
    seen (viewed tokens) (w.checkNearEnd tokens expected) =
      (w.view tokens).checkNearEnd expected := by
  unfold checkNearEnd Parser.checkNearEnd
  by_cases inside : w.cursor < tokens.length
  · rw [current_of_inside inside, view_rest_of_inside inside]
    by_cases last : tokens.length ≤ w.cursor + 1
    · rw [if_pos last, List.drop_eq_nil_of_le last]
      simp only [view_report, view_next]
      rfl
    · rw [if_neg last, List.drop_eq_getElem_cons (Nat.lt_of_not_le last)]
      rfl
  · rw [if_pos (by omega), view_rest_of_end (Nat.le_of_not_lt inside), current, dif_neg inside]
    rfl

theorem seen_unexpected (expected : String) (w : Walk) :
    seen (view tokens) (w.unexpected tokens expected) = (w.view tokens).unexpected expected := by
  unfold unexpected Parser.unexpected
  rw [← seen_current]
  by_cases inside : w.cursor < tokens.length
  · rw [current_of_inside inside]
    by_cases first : w.cursor = 0
    · have none : (w.view tokens).previous = none := if_pos first
      rw [if_neg (by omega), none]
      rfl
    · have behind : 1 ≤ w.cursor ∧ w.cursor ≤ tokens.length := by omega
      have there : (w.view tokens).previous = some tokens[w.cursor - 1] :=
        (if_neg first).trans (List.getElem?_eq_getElem (by omega))
      rw [if_pos (by omega), previous, dif_pos behind, there]
      rfl
  · rw [current, dif_neg inside]
    split
    · cases (w.previous tokens) <;> rfl
    · rfl

/-! ### Values -/

/-- The rest of a value without the reason why it ends. -/
theorem parsePlus_eq (w : Walk) :
    w.parsePlus tokens =
      if tokens.length ≤ w.cursor then .ok w
      else do
        let t ← w.current tokens
        if t.kind = .plus then
          let (near, w) ← w.checkNearEnd tokens valueExpected
          if near then
            let (found, w) ← w.next.parseValue tokens
            return if found then w.emit .concatenate else w
          else return w
        else return w := by
  rw [parsePlus, dite_eq_ite]
  refine ite_congr rfl (fun _ => rfl) fun _ => bind_congr fun t => ite_congr rfl (fun _ => ?_)
    fun _ => rfl
  split
  · next near => rw [near]; rfl
  · next near => rw [near]; rfl
  · next near => rw [near]; rfl

theorem parser_parsePlus_eq {p : Parser} {t : Token} {ts : List Token} (rest : p.rest = t :: ts) :
    p.parsePlus =
      if t.kind = .plus then do
        let (near, q) ← p.checkNearEnd valueExpected
        if near then
          let (found, r) ← q.next.parseValue
          return if found then r.emit .concatenate else r
        else return q
      else return p := by
  rw [Parser.parsePlus]
  split
  · next none => rw [rest] at none; cases none
  · next rest' =>
    obtain ⟨rfl, rfl⟩ := List.cons.inj (rest.symm.trans rest')
    refine ite_congr rfl (fun _ => ?_) fun _ => rfl
    split
    · next near => rw [near]; rfl
    · next near => rw [near]; rfl
    · next q near =>
      rw [near]
      change _ = q.next.parseValue >>= _
      cases q.next.parseValue <;> rfl

theorem seen_value (w : Walk) :
    seen (view tokens) (w.parsePlus tokens) = (w.view tokens).parsePlus ∧
      seen (viewed tokens) (w.parseValue tokens) = (w.view tokens).parseValue := by
  induction left : tokens.length - w.cursor using Nat.strongRecOn generalizing w with
  | ind n ih =>
    by_cases inside : w.cursor < tokens.length
    case neg =>
      have done := view_rest_of_end (Nat.le_of_not_lt inside)
      constructor
      · rw [parsePlus, Parser.parsePlus, dif_pos (Nat.le_of_not_lt inside)]
        split
        · rfl
        · next rest => rw [done] at rest; cases rest
      · rw [parseValue, Parser.parseValue, dif_pos (Nat.le_of_not_lt inside)]
        split
        · rfl
        · next rest => rw [done] at rest; cases rest
    case pos =>
      have rest := view_rest_of_inside inside
      constructor
      · rw [parsePlus_eq, parser_parsePlus_eq rest, if_neg (by omega), current_of_inside inside]
        change seen _ (ite _ _ _) = _
        by_cases plus : tokens[w.cursor].kind = .plus
        · rw [if_pos plus, if_pos plus]
          refine seen_bind (seen_checkNearEnd valueExpected w) ?_
          rintro ⟨near, w'⟩ checked
          have kept := cursor_checkNearEnd tokens checked
          cases near with
          | false => rfl
          | true =>
            have value := (ih (tokens.length - w'.next.cursor)
              (by simp only [next]; omega) w'.next rfl).2
            rw [← view_next] at value
            refine seen_bind value ?_
            rintro ⟨found, w''⟩ -
            cases found <;> rfl
        · rw [if_neg plus, if_neg plus]
          rfl
      · rw [parseValue, Parser.parseValue, dif_neg (by omega), current_of_inside inside]
        split
        · next none => rw [rest] at none; cases none
        · next rest' =>
          obtain ⟨rfl, -⟩ := List.cons.inj (rest.symm.trans rest')
          have operand : ∀ i, seen (view tokens) ((w.emit i).next.parsePlus tokens) =
              ((w.view tokens).emit i).next.parsePlus := by
            intro i
            rw [view_emit, view_next]
            exact (ih _ (by simp only [next, emit]; omega) _ rfl).1
          dsimp only [bind, Except.bind]
          cases kind : tokens[w.cursor].kind
          case string =>
            dsimp only
            rw [← operand]
            cases (w.emit (.pushLiteral tokens[w.cursor].text)).next.parsePlus tokens <;> rfl
          case identifier =>
            dsimp only
            by_cases known : (w.view tokens).declared.contains tokens[w.cursor].text = true
            · rw [if_pos known, if_pos (show w.declared.contains _ = true from known), ← operand]
              cases (w.emit (.readVariable tokens[w.cursor].text)).next.parsePlus tokens <;> rfl
            · rw [if_neg known, if_neg (show ¬ w.declared.contains _ = true from known),
                view_report, view_next]
              rfl
          all_goals
            dsimp only
            rw [← seen_unexpected]
            cases w.unexpected tokens valueExpected <;> rfl

theorem seen_parseValue (w : Walk) :
    seen (viewed tokens) (w.next.parseValue tokens) = (w.view tokens).next.parseValue := by
  rw [view_next]
  exact (seen_value w.next).2

/-! ### Statements -/

section Steps

variable {β β' : Type} {h : β → β'}

theorem current_bind {g : Token → Except Stray β} {k : Token → Except PastEnd β'} (w : Walk)
    (behind : ∀ t, seen h (g t) = k t) :
    seen h (w.current tokens >>= g) = ((w.view tokens).current >>= k) :=
  seen_bind (seen_current w) fun t _ => behind t

theorem checkNearEnd_bind {expected : String} {g : Bool × Walk → Except Stray β}
    {k : Bool × Parser → Except PastEnd β'} (w : Walk)
    (near : ∀ w, seen h (g (true, w)) = k (true, w.view tokens))
    (last : ∀ w, seen h (g (false, w)) = k (false, w.view tokens)) :
    seen h (w.checkNearEnd tokens expected >>= g) =
      ((w.view tokens).checkNearEnd expected >>= k) := by
  refine seen_bind (seen_checkNearEnd expected w) ?_
  rintro ⟨found, w⟩ -
  cases found with
  | false => exact last w
  | true => exact near w

theorem parseValue_bind {g : Bool × Walk → Except Stray β} {k : Bool × Parser → Except PastEnd β'}
    (w : Walk) (behind : ∀ found w, seen h (g (found, w)) = k (found, w.view tokens)) :
    seen h (w.next.parseValue tokens >>= g) = ((w.view tokens).next.parseValue >>= k) := by
  refine seen_bind (seen_parseValue w) ?_
  rintro ⟨found, w⟩ -
  exact behind found w

end Steps

theorem seen_parsePrint (w : Walk) :
    seen (view tokens) (w.parsePrint tokens) = (w.view tokens).parsePrint := by
  apply checkNearEnd_bind
  · intro w
    apply parseValue_bind
    intro found w
    cases found <;> rfl
  · intro w
    rfl

theorem seen_parseAssignment (w : Walk) :
    seen (view tokens) (w.parseAssignment tokens) = (w.view tokens).parseAssignment := by
  apply checkNearEnd_bind
  · intro w
    apply current_bind
    intro name
    simp only [view_next]
    apply current_bind
    intro sign
    by_cases equals : sign.kind = .equals
    · rw [if_pos equals, if_pos equals]
      apply checkNearEnd_bind
      · intro w
        apply parseValue_bind
        intro found w
        cases found with
        | false => rfl
        | true =>
          simp only [view_declare, view_emit]
          rfl
      · intro w
        rfl
    · rw [if_neg equals, if_neg equals]
      exact seen_unexpected ..
  · intro w
    rfl

theorem seen_parseBody (w : Walk) :
    seen (viewed tokens) (w.parseBody tokens) = (w.view tokens).parseBody := by
  unfold parseBody Parser.parseBody
  by_cases inside : w.cursor < tokens.length
  · rw [if_neg (by omega), current_of_inside inside, view_rest_of_inside inside]
    change seen _ (ite _ _ _) = ite _ _ _
    by_cases body : tokens[w.cursor].kind = .body
    · rw [if_pos body, if_pos body]
      apply checkNearEnd_bind
      · intro w
        exact seen_parseValue w
      · intro w
        rfl
    · rw [if_neg body, if_neg body]
      rfl
  · rw [if_pos (by omega), view_rest_of_end (Nat.le_of_not_lt inside)]
    rfl

theorem seen_parseStatus (w : Walk) :
    seen (view tokens) (w.parseStatus tokens) = .ok (w.view tokens).parseStatus := by
  unfold parseStatus Parser.parseStatus
  by_cases inside : w.cursor < tokens.length
  · rw [if_neg (by omega), current_of_inside inside, view_rest_of_inside inside]
    dsimp only [bind, Except.bind]
    by_cases number : tokens[w.cursor].kind = .number
    · rw [if_pos number, if_pos number, view_emit, view_next]
      rfl
    · rw [if_neg number, if_neg number]
      rfl
  · rw [if_pos (by omega), view_rest_of_end (Nat.le_of_not_lt inside)]
    rfl

theorem seen_parseReplyUse (method : Method) (hasBody : Bool) (w : Walk) :
    seen (view tokens) (w.parseReplyUse tokens method hasBody) =
      (w.view tokens).parseReplyUse method hasBody := by
  unfold parseReplyUse Parser.parseReplyUse
  by_cases inside : w.cursor < tokens.length
  · rw [if_neg (by omega), current_of_inside inside, view_rest_of_inside inside, ok_bind]
    dsimp only
    cases kind : tokens[w.cursor].kind
    case equals =>
      apply checkNearEnd_bind
      · intro w
        simp only [view_next]
        apply current_bind
        intro name
        by_cases identifier : name.kind = .identifier
        · rw [if_pos identifier, if_pos identifier, view_emit, view_emit, view_declare, view_next]
          rfl
        · rw [if_neg identifier, if_neg identifier]
          exact seen_unexpected ..
      · intro w
        rfl
    case question =>
      apply checkNearEnd_bind
      · intro w
        apply parseValue_bind
        intro found w
        cases found <;> rfl
      · intro w
        rfl
    all_goals rfl
  · rw [if_pos (by omega), view_rest_of_end (Nat.le_of_not_lt inside)]
    rfl

theorem seen_parseRequest (method : Method) (w : Walk) :
    seen (view tokens) (w.parseRequest tokens method) = (w.view tokens).parseRequest method := by
  apply checkNearEnd_bind
  · intro w
    apply parseValue_bind
    intro found w
    cases found with
    | false => rfl
    | true =>
      refine seen_bind (seen_parseBody w) ?_
      rintro ⟨hasBody, w⟩ -
      refine seen_bind (seen_parseStatus w) (k := fun p => p.parseReplyUse method hasBody) ?_
      intro w _
      exact seen_parseReplyUse method hasBody w
  · intro w
    rfl

theorem seen_parseStatement (t : Token) (w : Walk) :
    seen (view tokens) (w.parseStatement tokens t) = (w.view tokens).parseStatement t := by
  unfold parseStatement Parser.parseStatement
  cases t.kind
  case identifier => exact seen_parseAssignment w
  case print => exact seen_parsePrint w
  case get | post | put | delete => exact seen_parseRequest _ w
  all_goals
    simp only [view_report, view_next]
    rfl

/-! ### Scripts -/

theorem ok_of_seen {α β : Type} {f : α → β} {x : Except Stray α} {b : β}
    (h : seen f x = .ok b) : ∃ a, x = .ok a ∧ f a = b := by
  cases x with
  | error e => cases h
  | ok a =>
    cases h
    exact ⟨a, rfl, rfl⟩

/-- A statement passes at least its first token. -/
theorem cursor_parseStatement {w w' : Walk} {t : Token} (current : w.current tokens = .ok t)
    (h : w.parseStatement tokens t = .ok w') : w.cursor < w'.cursor := by
  obtain ⟨inside, rfl⟩ := inside_of_current current
  have parsed : seen (view tokens) (w.parseStatement tokens tokens[w.cursor]) =
      (w.view tokens).parseStatement tokens[w.cursor] := seen_parseStatement _ w
  rw [h] at parsed
  have shorter := Parser.length_parseStatement_lt (view_rest_of_inside inside) parsed.symm
  simp only [view, List.length_drop] at shorter
  omega

variable (tokens) in
/-- Reads statements until no token is left. -/
def parse (w : Walk) : Except Stray Walk :=
  if _ : tokens.length ≤ w.cursor then .ok w
  else
    match _ : w.current tokens with
    | .error e => .error e
    | .ok t =>
      match _ : w.parseStatement tokens t with
      | .error e => .error e
      | .ok w' => parse w'
termination_by tokens.length - w.cursor
decreasing_by
  have forward := cursor_parseStatement ‹_› ‹_›
  omega

/-- Where a token is left, a statement is read, and the script goes on behind it. -/
theorem parse_step {w : Walk} (inside : w.cursor < tokens.length) :
    ∃ w', w.parseStatement tokens tokens[w.cursor] = .ok w' ∧ w.cursor < w'.cursor ∧
      w.parse tokens = w'.parse tokens ∧ (w.view tokens).parse = (w'.view tokens).parse := by
  have rest := view_rest_of_inside inside
  have left : (w.view tokens).rest ≠ [] := by
    rw [rest]
    exact List.cons_ne_nil _ _
  obtain ⟨q, good⟩ := Parser.parseStatement_isOk tokens[w.cursor] left
  obtain ⟨w', read, rfl⟩ := ok_of_seen ((seen_parseStatement _ w).trans good)
  refine ⟨w', read, cursor_parseStatement (current_of_inside inside) read, ?_, ?_⟩
  · rw [parse, dif_neg (Nat.not_le.mpr inside)]
    split
    · next bad => rw [current_of_inside inside] at bad; cases bad
    · next current =>
      rw [current_of_inside inside] at current
      cases current
      split
      · next bad => rw [read] at bad; cases bad
      · next read' =>
        rw [read] at read'
        cases read'
        rfl
  · rw [Parser.parse]
    split
    · next none => exact absurd none left
    · next rest' =>
      obtain ⟨rfl, -⟩ := List.cons.inj (rest.symm.trans rest')
      split
      · next bad => rw [good] at bad; cases bad
      · next good' =>
        rw [good] at good'
        cases good'
        rfl

/-- The loop ends, at every list of tokens. -/
theorem parse_isOk (tokens : List Token) (w : Walk) :
    ∃ w', w.parse tokens = .ok w' ∧ (w.view tokens).parse = .ok (w'.view tokens) := by
  induction left : tokens.length - w.cursor using Nat.strongRecOn generalizing w with
  | ind n ih =>
    by_cases inside : w.cursor < tokens.length
    · obtain ⟨w₁, -, forward, same, same'⟩ := parse_step inside
      obtain ⟨w', parsed, parsed'⟩ := ih _ (by omega) w₁ rfl
      exact ⟨w', same.trans parsed, same'.trans parsed'⟩
    · have done := Nat.le_of_not_lt inside
      refine ⟨w, ?_, ?_⟩
      · rw [parse, dif_pos done]
      · rw [Parser.parse]
        split
        · rfl
        · next rest => rw [view_rest_of_end done] at rest; cases rest

/-- No token is asked for that is not there, be it the current one or the one in front of it;
each turn of the loop moves the cursor forward, and the loop leaves it at the end of the list. -/
theorem parse_in_bounds (tokens : List Token) (d : Diagnostics) :
    (∃ w, Walk.parse tokens { diagnostics := d } = .ok w ∧ w.cursor = tokens.length ∧
      Parser.parse { rest := tokens, diagnostics := d } = .ok (w.view tokens)) ∧
    (∀ w t, Walk.current tokens w = .ok t → w.cursor < tokens.length) ∧
    (∀ w t, Walk.previous tokens w = .ok t → 1 ≤ w.cursor ∧ w.cursor ≤ tokens.length) ∧
    ∀ w t, Walk.current tokens w = .ok t → ∃ w', w.parseStatement tokens t = .ok w' ∧
      w.cursor < w'.cursor ∧ w.parse tokens = w'.parse tokens := by
  refine ⟨?_, ?_, ?_, ?_⟩
  · obtain ⟨w, walked, parsed⟩ := parse_isOk tokens { diagnostics := d }
    obtain ⟨blocks, names, found, account, -⟩ := Parser.parse_blocks parsed
    refine ⟨w, walked, ?_, parsed⟩
    exact account.cursor.trans (Nat.zero_add _)
  · intro w t current
    exact (inside_of_current current).1
  · intro w t previous
    exact behind_of_previous previous
  · intro w t current
    obtain ⟨inside, rfl⟩ := inside_of_current current
    obtain ⟨w', read, forward, same, -⟩ := parse_step inside
    exact ⟨w', read, forward, same⟩

/-- A script that ends where a value is needed. -/
theorem parse_in_bounds_unfinished :
    let show' : Token := ⟨.print, ⟨⟨1, 1⟩, ⟨1, 6⟩⟩, "print"⟩
    ∃ w, Walk.parse [show'] { diagnostics := { file := "s" } } = .ok w ∧ w.cursor = 1 ∧
      ∃ w', Walk.parseStatement [show'] show' { diagnostics := { file := "s" } } = .ok w' ∧
        0 < w'.cursor := by
  intro show'
  obtain ⟨⟨w, walked, stop, -⟩, -, -, turn⟩ := parse_in_bounds [show'] { file := "s" }
  obtain ⟨w', read, forward, -⟩ := turn { diagnostics := { file := "s" } } show' rfl
  exact ⟨w, walked, stop, w', read, forward⟩

end Walk

end RouteScript
