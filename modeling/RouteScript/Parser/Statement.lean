import RouteScript.Parser.Value

/-!
Statements and whole scripts.

    statement  := assignment | print | request
    assignment := Identifier '=' value
    print      := 'print' value
    request    := Method value ('body' value)? Number? ('=' Identifier | '?' value)?

An error is recorded and reading goes on with the token at hand, so that one
pass reports as much as possible. Every statement passes at least one token
(`length_parseStatement_lt`), which is why `parse` ends.
-/

namespace RouteScript

/-- The method that a request keyword stands for. -/
def TokenKind.method? : TokenKind → Option Method
  | get => some .get
  | post => some .post
  | put => some .put
  | delete => some .delete
  | _ => none

namespace Parser

/-- The status that a request expects when none is written. -/
def defaultStatus : String := "200"

/-- A name and the value that is bound to it. -/
def parseAssignment (p : Parser) : Except PastEnd Parser := do
  let (near, p) ← p.checkNearEnd "a token"
  if near then
    let name := (← p.current).text
    let p := p.next
    if (← p.current).kind = .equals then
      let (near, p) ← p.checkNearEnd valueExpected
      if near then
        let (found, p) ← p.next.parseValue
        return if found then (p.declare name).emit (.bindVariable name) else p
      else return p
    else p.unexpected "an equal sign"
  else return p

/-- A value to show. -/
def parsePrint (p : Parser) : Except PastEnd Parser := do
  let (near, p) ← p.checkNearEnd valueExpected
  if near then
    let (found, p) ← p.next.parseValue
    return if found then p.emit .print else p
  else return p

/-- The body of a request, and whether there is one. -/
def parseBody (p : Parser) : Except PastEnd (Bool × Parser) :=
  match p.rest with
  | [] => .ok (false, p)
  | t :: _ =>
    if t.kind = .body then do
      let (near, p) ← p.checkNearEnd valueExpected
      if near then p.next.parseValue else return (false, p)
    else .ok (false, p)

/-- The expected status of a request. -/
def parseStatus (p : Parser) : Parser :=
  match p.rest with
  | [] => p.emit (.pushLiteral defaultStatus)
  | t :: _ =>
    if t.kind = .number then (p.emit (.pushLiteral t.text)).next
    else p.emit (.pushLiteral defaultStatus)

/-- What becomes of the reply: the instruction that ends a request. -/
def parseReplyUse (method : Method) (hasBody : Bool) (p : Parser) : Except PastEnd Parser :=
  match p.rest with
  | [] => .ok (p.emit (.request ⟨.discard, method, hasBody⟩))
  | t :: _ =>
    match t.kind with
    | .equals => do
      let (near, p) ← p.checkNearEnd "a variable name"
      if near then
        let p := p.next
        let name ← p.current
        if name.kind = .identifier then
          let p := p.emit (.request ⟨.capture, method, hasBody⟩)
          return ((p.emit (.bindVariable name.text)).declare name.text).next
        else p.unexpected "a variable name"
      else return p
    | .question => do
      let (near, p) ← p.checkNearEnd valueExpected
      if near then
        let (found, p) ← p.next.parseValue
        return if found then p.emit (.request ⟨.compare, method, hasBody⟩) else p
      else return p
    | _ => .ok (p.emit (.request ⟨.discard, method, hasBody⟩))

/-- A request. A failed body clause is reported and the request goes on without. -/
def parseRequest (method : Method) (p : Parser) : Except PastEnd Parser := do
  let (near, p) ← p.checkNearEnd valueExpected
  if near then
    let (found, p) ← p.next.parseValue
    if found then
      let (hasBody, p) ← p.parseBody
      p.parseStatus.parseReplyUse method hasBody
    else return p
  else return p

/-- The statement that starts with token `t`, the current one. A token that
starts none is reported and passed. -/
def parseStatement (t : Token) (p : Parser) : Except PastEnd Parser :=
  match t.kind with
  | .identifier => p.parseAssignment
  | .print => p.parsePrint
  | .string => .ok (p.report (.noParse t.loc.start ("\"" ++ t.text ++ "\""))).next
  | kind =>
    match kind.method? with
    | some method => p.parseRequest method
    | none => .ok (p.report (.noParse t.loc.start t.text)).next

/-! ### What remains to be read -/

/-- A near-end check leaves either the same parser, with two tokens to go, or no
token; in both cases a step behind it has passed the current token. -/
theorem checkNearEnd_cases {expected : String} {p q : Parser} {near : Bool}
    (h : p.checkNearEnd expected = .ok (near, q)) :
    q.rest.length ≤ p.rest.length ∧ q.next.rest.length < p.rest.length ∧
      (near = false → q.rest.length < p.rest.length) := by
  rcases rest_checkNearEnd h with ⟨rfl, rfl, long⟩ | ⟨rfl, done, one⟩
  · exact ⟨Nat.le_refl _, by simp; omega, nofun⟩
  · simp [done, one]

theorem length_parseAssignment_lt {p q : Parser} (h : p.parseAssignment = .ok q) :
    q.rest.length < p.rest.length := by
  simp only [parseAssignment, bind, Except.bind, pure, Except.pure] at h
  split at h
  · cases h
  · next r near =>
    obtain ⟨near', p₁⟩ := r
    have first := checkNearEnd_cases near
    simp only at h
    split at h
    · split at h
      · cases h
      · split at h
        · cases h
        · split at h
          · split at h
            · cases h
            · next r₂ near₂ =>
              obtain ⟨near₂', p₂⟩ := r₂
              have second := checkNearEnd_cases near₂
              simp only at h
              split at h
              · split at h
                · cases h
                · next r₃ value =>
                  obtain ⟨found, p₃⟩ := r₃
                  have third := length_parseValue_le value
                  cases h
                  cases found <;> simp at third ⊢ <;> omega
              · cases h
                omega
          · rw [rest_unexpected h]
            omega
    · next no =>
      cases h
      exact first.2.2 (by simpa using no)

theorem length_parsePrint_lt {p q : Parser} (h : p.parsePrint = .ok q) :
    q.rest.length < p.rest.length := by
  simp only [parsePrint, bind, Except.bind, pure, Except.pure] at h
  split at h
  · cases h
  · next r near =>
    obtain ⟨near', p₁⟩ := r
    have first := checkNearEnd_cases near
    simp only at h
    split at h
    · split at h
      · cases h
      · next r₃ value =>
        obtain ⟨found, p₃⟩ := r₃
        have third := length_parseValue_le value
        cases h
        cases found <;> simp at third ⊢ <;> omega
    · next no =>
      cases h
      exact first.2.2 (by simpa using no)

theorem length_parseBody_le {p q : Parser} {found : Bool} (h : p.parseBody = .ok (found, q)) :
    q.rest.length ≤ p.rest.length := by
  unfold parseBody at h
  split at h
  · cases h; exact Nat.le_refl _
  · split at h
    · simp only [bind, Except.bind, pure, Except.pure] at h
      split at h
      · cases h
      · next r near =>
        obtain ⟨near', p₁⟩ := r
        have first := checkNearEnd_cases near
        simp only at h
        split at h
        · have third := length_parseValue_le h
          omega
        · cases h
          exact first.1
    · cases h; exact Nat.le_refl _

theorem length_parseStatus_le (p : Parser) : p.parseStatus.rest.length ≤ p.rest.length := by
  unfold parseStatus
  split
  · simp
  · split <;> simp

theorem length_parseReplyUse_le {method : Method} {hasBody : Bool} {p q : Parser}
    (h : p.parseReplyUse method hasBody = .ok q) : q.rest.length ≤ p.rest.length := by
  unfold parseReplyUse at h
  split at h
  · cases h; simp
  · split at h
    · simp only [bind, Except.bind, pure, Except.pure] at h
      split at h
      · cases h
      · next r near =>
        obtain ⟨near', p₁⟩ := r
        have first := checkNearEnd_cases near
        simp only at h
        split at h
        · split at h
          · cases h
          · split at h
            · cases h
              have := first.2.1
              simp at this ⊢
              omega
            · rw [rest_unexpected h]
              omega
        · cases h
          exact first.1
    · simp only [bind, Except.bind, pure, Except.pure] at h
      split at h
      · cases h
      · next r near =>
        obtain ⟨near', p₁⟩ := r
        have first := checkNearEnd_cases near
        simp only at h
        split at h
        · split at h
          · cases h
          · next r₃ value =>
            obtain ⟨found, p₃⟩ := r₃
            have third := length_parseValue_le value
            cases h
            cases found <;> simp at third ⊢ <;> omega
        · cases h
          exact first.1
    · cases h; simp

theorem length_parseRequest_lt {method : Method} {p q : Parser}
    (h : p.parseRequest method = .ok q) : q.rest.length < p.rest.length := by
  simp only [parseRequest, bind, Except.bind, pure, Except.pure] at h
  split at h
  · cases h
  · next r near =>
    obtain ⟨near', p₁⟩ := r
    have first := checkNearEnd_cases near
    simp only at h
    split at h
    · split at h
      · cases h
      · next r₂ value =>
        obtain ⟨found, p₂⟩ := r₂
        have second := length_parseValue_le value
        simp only at h
        split at h
        · split at h
          · cases h
          · next r₃ body =>
            obtain ⟨hasBody, p₃⟩ := r₃
            have third := length_parseBody_le body
            have fourth := length_parseStatus_le p₃
            have fifth : q.rest.length ≤ p₃.parseStatus.rest.length := length_parseReplyUse_le h
            omega
        · cases h
          omega
    · next no =>
      cases h
      exact first.2.2 (by simpa using no)

/-- A statement passes at least its first token. -/
theorem length_parseStatement_lt {t : Token} {ts : List Token} {p q : Parser}
    (rest : p.rest = t :: ts) (h : p.parseStatement t = .ok q) :
    q.rest.length < p.rest.length := by
  unfold parseStatement at h
  split at h
  · exact length_parseAssignment_lt h
  · exact length_parsePrint_lt h
  · cases h; simp [rest]
  · split at h
    · exact length_parseRequest_lt h
    · cases h; simp [rest]

/-! ### Scripts -/

/-- Reads statements until no token is left. -/
def parse (p : Parser) : Except PastEnd Parser :=
  match _ : p.rest with
  | [] => .ok p
  | t :: _ =>
    match _ : p.parseStatement t with
    | .error e => .error e
    | .ok q => parse q
termination_by p.rest.length
decreasing_by exact length_parseStatement_lt ‹_› ‹_›

end Parser

end RouteScript
