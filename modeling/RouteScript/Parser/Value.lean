import RouteScript.Parser.Basic

/-!
Values: texts and variables joined by `+`.

    value := (String | Identifier) ('+' value)?

The operands are emitted from left to right and joined behind the last one. An
operand that fails keeps those before it: the value counts as found as soon as it
has a first operand.
-/

namespace RouteScript.Parser

/-- What a message says where a value is needed. -/
def valueExpected : String := "a string or a variable"

mutual

/-- The rest of a value behind an operand. -/
def parsePlus (p : Parser) : Except PastEnd Parser :=
  match _ : p.rest with
  | [] => .ok p
  | t :: _ =>
    if t.kind = .plus then
      match _ : p.checkNearEnd valueExpected with
      | .error e => .error e
      | .ok (false, q) => .ok q
      | .ok (true, q) =>
        match parseValue q.next with
        | .error e => .error e
        | .ok (found, r) => .ok (if found then r.emit .concatenate else r)
    else .ok p
termination_by p.rest.length
decreasing_by
  rcases rest_checkNearEnd ‹_› with ⟨-, rfl, long⟩ | ⟨impossible, -⟩
  · simp; omega
  · cases impossible

/-- A value, and whether there was one. Without one nothing is emitted; a token
that starts no value is left for the caller. -/
def parseValue (p : Parser) : Except PastEnd (Bool × Parser) :=
  match _ : p.rest with
  | [] => .ok (false, p)
  | t :: _ =>
    match t.kind with
    | .string =>
      match parsePlus (p.emit (.pushLiteral t.text)).next with
      | .error e => .error e
      | .ok q => .ok (true, q)
    | .identifier =>
      if p.declared.contains t.text then
        match parsePlus (p.emit (.readVariable t.text)).next with
        | .error e => .error e
        | .ok q => .ok (true, q)
      else .ok (false, (p.report (.nullVariable t.loc t.text)).next)
    | _ =>
      match p.unexpected valueExpected with
      | .error e => .error e
      | .ok q => .ok (false, q)
termination_by p.rest.length
decreasing_by all_goals simp [‹p.rest = _›]

end

/-! ### What remains to be read -/

private theorem length_le (n : Nat) :
    (∀ p q, p.rest.length ≤ n → parsePlus p = .ok q → q.rest.length ≤ p.rest.length) ∧
    (∀ p q found, p.rest.length ≤ n → parseValue p = .ok (found, q) →
      q.rest.length ≤ p.rest.length) := by
  induction n with
  | zero =>
    refine ⟨fun p q short h => ?_, fun p q found short h => ?_⟩ <;>
      have none : p.rest = [] := List.eq_nil_of_length_eq_zero (Nat.le_zero.1 short)
    · unfold parsePlus at h; split at h <;> simp_all
    · unfold parseValue at h; split at h <;> simp_all
  | succ n ih =>
    refine ⟨fun p q short h => ?_, fun p q found short h => ?_⟩
    · unfold parsePlus at h
      split at h
      · cases h; exact Nat.le_refl _
      · split at h
        · split at h
          · cases h
          · next near =>
            cases h
            rcases rest_checkNearEnd near with ⟨impossible, -⟩ | ⟨-, done, -⟩
            · cases impossible
            · simp [done]
          · next near =>
            rcases rest_checkNearEnd near with ⟨-, rfl, long⟩ | ⟨impossible, -⟩
            · split at h
              · cases h
              · next found r value =>
                cases h
                have shorter := ih.2 _ _ _ (by simp; omega) value
                cases found <;> simp at shorter ⊢ <;> omega
            · cases impossible
        · cases h; exact Nat.le_refl _
    · unfold parseValue at h
      split at h
      · cases h; exact Nat.le_refl _
      · next t ts rest =>
        have tail : p.rest.length = ts.length + 1 := by simp [rest]
        split at h
        · split at h
          · cases h
          · next plus =>
            cases h
            have shorter := ih.1 _ _ (by simp [rest]; omega) plus
            simp [rest] at shorter; omega
        · split at h
          · split at h
            · cases h
            · next plus =>
              cases h
              have shorter := ih.1 _ _ (by simp [rest]; omega) plus
              simp [rest] at shorter; omega
          · cases h
            simp
        · split at h
          · cases h
          · next same =>
            cases h
            exact Nat.le_of_eq (congrArg List.length (rest_unexpected same))

theorem length_parseValue_le {p q : Parser} {found : Bool}
    (h : parseValue p = .ok (found, q)) : q.rest.length ≤ p.rest.length :=
  (length_le _).2 p q found (Nat.le_refl _) h

end RouteScript.Parser
