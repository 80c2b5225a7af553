import RouteScript.Parser.Statement

/-!
The parser never asks for a token behind the last one.

Values can be read anywhere; a statement can be read wherever a token is left.
Hence `parse` has a result on every list of tokens (`parse_isOk`), and `compile`
returns it.
-/

namespace RouteScript.Parser

theorem checkNearEnd_isOk (expected : String) {p : Parser} (left : p.rest ≠ []) :
    ∃ r, p.checkNearEnd expected = .ok r := by
  unfold checkNearEnd
  split
  · exact absurd ‹_› left
  · exact ⟨_, rfl⟩
  · exact ⟨_, rfl⟩

theorem unexpected_isOk (expected : String) {p : Parser} (left : p.rest ≠ []) :
    ∃ q, p.unexpected expected = .ok q := by
  unfold unexpected current
  split
  · exact absurd ‹_› left
  · exact ⟨_, rfl⟩

theorem current_isOk {p : Parser} (left : p.rest ≠ []) : ∃ t, p.current = .ok t := by
  unfold current
  split
  · exact absurd ‹_› left
  · exact ⟨_, rfl⟩

/-- Behind a successful near-end check a token is left. -/
theorem next_of_checkNearEnd {expected : String} {p q : Parser}
    (h : p.checkNearEnd expected = .ok (true, q)) : q.next.rest ≠ [] := by
  rcases rest_checkNearEnd h with ⟨-, rfl, long⟩ | ⟨impossible, -⟩
  · intro none
    have := congrArg List.length none
    simp at this
    omega
  · cases impossible

private theorem isOk_of_length_le (n : Nat) :
    (∀ p : Parser, p.rest.length ≤ n → ∃ q, p.parsePlus = .ok q) ∧
    (∀ p : Parser, p.rest.length ≤ n → ∃ r, p.parseValue = .ok r) := by
  induction n with
  | zero =>
    refine ⟨fun p short => ?_, fun p short => ?_⟩ <;>
      have none : p.rest = [] := List.eq_nil_of_length_eq_zero (Nat.le_zero.1 short)
    · unfold parsePlus; split <;> simp_all
    · unfold parseValue; split <;> simp_all
  | succ n ih =>
    refine ⟨fun p short => ?_, fun p short => ?_⟩
    · unfold parsePlus
      split
      · exact ⟨_, rfl⟩
      · next t ts rest =>
        split
        · split
          · next bad =>
            obtain ⟨_, good⟩ := checkNearEnd_isOk valueExpected (p := p) (by simp [rest])
            rw [good] at bad; cases bad
          · exact ⟨_, rfl⟩
          · next q near =>
            have smaller := (checkNearEnd_cases near).2.1
            obtain ⟨r, value⟩ := ih.2 q.next (by omega)
            rw [value]
            exact ⟨_, rfl⟩
        · exact ⟨_, rfl⟩
    · unfold parseValue
      split
      · exact ⟨_, rfl⟩
      · next t ts rest =>
        have tail : p.rest.length = ts.length + 1 := by simp [rest]
        split
        · obtain ⟨q, plus⟩ := ih.1 (p.emit (.pushLiteral t.text)).next (by simp [rest]; omega)
          rw [plus]
          exact ⟨_, rfl⟩
        · split
          · obtain ⟨q, plus⟩ := ih.1 (p.emit (.readVariable t.text)).next (by simp [rest]; omega)
            rw [plus]
            exact ⟨_, rfl⟩
          · exact ⟨_, rfl⟩
        · obtain ⟨q, same⟩ := unexpected_isOk valueExpected (p := p) (by simp [rest])
          rw [same]
          exact ⟨_, rfl⟩

/-- A value can be read anywhere. -/
theorem parseValue_isOk (p : Parser) : ∃ r, p.parseValue = .ok r :=
  (isOk_of_length_le _).2 p (Nat.le_refl _)

theorem parseAssignment_isOk {p : Parser} (left : p.rest ≠ []) :
    ∃ q, p.parseAssignment = .ok q := by
  obtain ⟨⟨near, p₁⟩, first⟩ := checkNearEnd_isOk "a token" left
  simp only [parseAssignment, bind, Except.bind, pure, Except.pure, first]
  split
  · next yes =>
    subst yes
    have left₁ := next_of_checkNearEnd first
    obtain ⟨t, name⟩ := current_isOk (p := p₁) (by intro none; simp [none] at left₁)
    obtain ⟨e, sign⟩ := current_isOk left₁
    simp only [name, sign]
    split
    · obtain ⟨⟨near₂, p₂⟩, second⟩ := checkNearEnd_isOk valueExpected left₁
      obtain ⟨⟨found, p₃⟩, value⟩ := parseValue_isOk p₂.next
      simp only [second, value]
      split <;> exact ⟨_, rfl⟩
    · exact unexpected_isOk _ left₁
  · exact ⟨_, rfl⟩

theorem parsePrint_isOk {p : Parser} (left : p.rest ≠ []) : ∃ q, p.parsePrint = .ok q := by
  obtain ⟨⟨near, p₁⟩, first⟩ := checkNearEnd_isOk valueExpected left
  obtain ⟨⟨found, p₂⟩, value⟩ := parseValue_isOk p₁.next
  simp only [parsePrint, bind, Except.bind, pure, Except.pure, first, value]
  split <;> exact ⟨_, rfl⟩

theorem parseBody_isOk (p : Parser) : ∃ r, p.parseBody = .ok r := by
  unfold parseBody
  split
  · exact ⟨_, rfl⟩
  · next t ts rest =>
    split
    · obtain ⟨⟨near, p₁⟩, first⟩ :=
        checkNearEnd_isOk valueExpected (p := p) (by simp [rest])
      simp only [bind, Except.bind, pure, Except.pure, first]
      split
      · exact parseValue_isOk _
      · exact ⟨_, rfl⟩
    · exact ⟨_, rfl⟩

theorem parseReplyUse_isOk (method : Method) (hasBody : Bool) (p : Parser) :
    ∃ q, p.parseReplyUse method hasBody = .ok q := by
  unfold parseReplyUse
  split
  · exact ⟨_, rfl⟩
  · next t ts rest =>
    split
    · obtain ⟨⟨near, p₁⟩, first⟩ :=
        checkNearEnd_isOk "a variable name" (p := p) (by simp [rest])
      simp only [bind, Except.bind, pure, Except.pure, first]
      split
      · next yes =>
        subst yes
        have left₁ := next_of_checkNearEnd first
        obtain ⟨name, current⟩ := current_isOk left₁
        simp only [current]
        split
        · exact ⟨_, rfl⟩
        · exact unexpected_isOk _ left₁
      · exact ⟨_, rfl⟩
    · obtain ⟨⟨near, p₁⟩, first⟩ :=
        checkNearEnd_isOk valueExpected (p := p) (by simp [rest])
      obtain ⟨⟨found, p₂⟩, value⟩ := parseValue_isOk p₁.next
      simp only [bind, Except.bind, pure, Except.pure, first, value]
      split <;> exact ⟨_, rfl⟩
    · exact ⟨_, rfl⟩

theorem parseRequest_isOk {method : Method} {p : Parser} (left : p.rest ≠ []) :
    ∃ q, p.parseRequest method = .ok q := by
  obtain ⟨⟨near, p₁⟩, first⟩ := checkNearEnd_isOk valueExpected left
  obtain ⟨⟨found, p₂⟩, value⟩ := parseValue_isOk p₁.next
  obtain ⟨⟨hasBody, p₃⟩, body⟩ := parseBody_isOk p₂
  simp only [parseRequest, bind, Except.bind, pure, Except.pure, first, value, body]
  split
  · split
    · exact parseReplyUse_isOk ..
    · exact ⟨_, rfl⟩
  · exact ⟨_, rfl⟩

theorem parseStatement_isOk {p : Parser} (t : Token) (left : p.rest ≠ []) :
    ∃ q, p.parseStatement t = .ok q := by
  unfold parseStatement
  split
  · exact parseAssignment_isOk left
  · exact parsePrint_isOk left
  · exact ⟨_, rfl⟩
  · split
    · exact parseRequest_isOk left
    · exact ⟨_, rfl⟩

/-- Parsing has a result on every list of tokens. -/
theorem parse_isOk (p : Parser) : ∃ q, p.parse = .ok q := by
  fun_induction parse p with
  | case1 p rest => exact ⟨_, rfl⟩
  | case2 p t ts rest e bad =>
    obtain ⟨q, good⟩ := parseStatement_isOk (p := p) t (by simp [rest])
    rw [good] at bad; cases bad
  | case3 p t ts rest q statement ih => exact ih

/-- The parser at the end of its tokens. -/
def finish (p : Parser) : Parser :=
  match h : p.parse with
  | .ok q => q
  | .error e => absurd h (by obtain ⟨q, good⟩ := p.parse_isOk; simp [good])

end RouteScript.Parser
