import RouteScript.Proofs.Parser.Blocks
import RouteScript.Parser.Total

/-!
The errors of the parser come in the order of the script.

A token may be reported twice, once as out of place and once more as the start of no
statement, and a statement goes on after a clause of it has failed. But every error is about
the token at hand (`Traced`), and the parser never goes back: so the errors stand in the order
in which they were recorded (`Traced.sorted`). The one about a missing token needs the last
token to be at hand, and passes it (`Traced.expectedToken_last`).

There are no more errors than tokens. That is so for each statement, whose first token pays
for an error about a token that is not passed (`Produces.count`), and so for a whole script
(`parse_traced`).
-/

namespace RouteScript

/-- Where an error of the parser stands. -/
def Diagnostic.place? : Diagnostic → Option Position
  | expectedToken pos _ => some pos
  | unexpectedToken loc _ _ => some loc.start
  | nullVariable loc _ => some loc.start
  | noParse pos _ => some pos
  | _ => none

/-- An error about a token that is missing at the end. -/
def Diagnostic.isExpectedToken : Diagnostic → Bool
  | expectedToken .. => true
  | _ => false

/-- No token stops before it starts, and none starts before the one in front of it stops. -/
def TokensInOrder : List Token → Prop
  | [] => True
  | t :: ts => t.loc.start.AtMost t.loc.stop ∧ (∀ u ∈ ts.head?, t.loc.stop.AtMost u.loc.start) ∧
    TokensInOrder ts

instance : DecidablePred TokensInOrder
  | [] => isTrue trivial
  | _ :: ts =>
    have : Decidable (TokensInOrder ts) := instDecidablePredListTokenTokensInOrder ts
    inferInstanceAs (Decidable (_ ∧ _ ∧ _))

namespace Parser

/-! ### Errors on the way -/

variable {ts us : List Token} {found : List Diagnostic}

theorem About.place {t : Token} {d : Diagnostic} (about : About t d) :
    d.place? = some t.loc.start := by
  cases about <;> rfl

theorem About.not_expectedToken {t : Token} {d : Diagnostic} (about : About t d) :
    d.isExpectedToken = false := by
  cases about <;> rfl

/-- On the way through tokens in order the errors stand in order, none before the first token. -/
theorem Traced.sorted (traced : Traced ts found us) (ordered : TokensInOrder ts) :
    ∃ places : List Position, found.map Diagnostic.place? = places.map some ∧
      places.Pairwise Position.AtMost ∧
      ∀ start : Position, (∀ t ∈ ts.head?, start.AtMost t.loc.start) →
        ∀ place ∈ places, start.AtMost place := by
  induction traced with
  | refl => exact ⟨[], rfl, .nil, nofun⟩
  | @pass t ts us found _ ih =>
    obtain ⟨forward, apart, ordered⟩ := ordered
    obtain ⟨places, same, sorted, bound⟩ := ih ordered
    refine ⟨places, same, sorted, ?_⟩
    intro start before
    apply bound
    intro u mem
    exact ((before t rfl).trans forward).trans (apart u mem)
  | @here t ts us d found about _ ih =>
    obtain ⟨places, same, sorted, bound⟩ := ih ordered
    have behind : ∀ place ∈ places, t.loc.start.AtMost place := by
      apply bound
      intro u mem
      cases mem
      exact .refl _
    refine ⟨t.loc.start :: places, ?_, .cons behind sorted, ?_⟩
    · rw [List.map_cons, about.place, same, List.map_cons]
    · intro start before place mem
      rcases List.mem_cons.mp mem with rfl | mem
      · exact before t rfl
      · exact (before t rfl).trans (behind place mem)
  | @ended t expected =>
    refine ⟨[t.loc.stop], rfl, List.pairwise_singleton .., ?_⟩
    intro start before place mem
    cases List.mem_singleton.mp mem
    exact (before t rfl).trans ordered.1

theorem Traced.countP_expectedToken_le (traced : Traced ts found us) :
    found.countP Diagnostic.isExpectedToken ≤ 1 := by
  induction traced with
  | refl => exact Nat.zero_le 1
  | pass _ ih => exact ih
  | here about _ ih =>
    rw [List.countP_cons_of_neg (by simp [about.not_expectedToken])]
    exact ih
  | ended => exact Nat.le_refl 1

/-- Where a token is missing, nothing is reported any more, and the last token has been passed. -/
theorem Traced.expectedToken_last (traced : Traced ts found us) {earlier later : List Diagnostic}
    {pos : Position} {expected : String}
    (split : found = earlier ++ .expectedToken pos expected :: later) :
    later = [] ∧ ∃ front last, ts = front ++ [last] ∧ pos = last.loc.stop := by
  induction traced generalizing earlier with
  | refl => simp at split
  | @pass t _ _ _ _ ih =>
    obtain ⟨done, front, last, rfl, stop⟩ := ih split
    exact ⟨done, t :: front, last, rfl, stop⟩
  | here about _ ih =>
    cases earlier with
    | nil =>
      cases split
      cases about
    | cons e earlier =>
      exact ih (List.cons.inj split).2
  | @ended t _ =>
    cases earlier with
    | nil =>
      cases split
      exact ⟨rfl, [], t, rfl, rfl⟩
    | cons e earlier =>
      have short := congrArg List.length split
      simp at short

/-! ### Scripts -/

/-- All of the tokens are passed, with no more errors than tokens. -/
theorem parse_traced {p q : Parser} (h : p.parse = .ok q) :
    ∃ found, q.diagnostics = found.foldl Sink.push p.diagnostics ∧ Traced p.rest found [] ∧
      found.length ≤ p.rest.length := by
  fun_induction parse p with
  | case1 p none =>
    cases h
    rw [none]
    exact ⟨[], rfl, .refl _, Nat.le_refl 0⟩
  | case2 p t ts rest e bad => cases h
  | case3 p t ts rest p₁ statement ih =>
    obtain ⟨us, b, found, first⟩ := parseStatement_produces rest statement
    obtain ⟨errors, recorded, traced, few⟩ := ih h
    refine ⟨found ++ errors, ?_, first.account.traced.trans traced, ?_⟩
    · rw [recorded, first.account.diagnostics, List.foldl_append]
    · rw [first.account.rest, List.length_append, List.length_append]
      exact Nat.add_le_add first.count few

/-- The errors in tokens that are in order are recorded in order, a missing token last and at
most once, and there are no more errors than tokens. -/
theorem parse_in_source_order {tokens : List Token} (ordered : TokensInOrder tokens)
    (before : Diagnostics) :
    ∃ q found, Parser.parse { rest := tokens, diagnostics := before } = .ok q ∧
      q.diagnostics.entries = before.entries ++ found ∧
      (∃ places : List Position, found.map Diagnostic.place? = places.map some ∧
        places.Pairwise Position.AtMost) ∧
      found.countP Diagnostic.isExpectedToken ≤ 1 ∧
      (∀ earlier later pos expected, found = earlier ++ .expectedToken pos expected :: later →
        later = [] ∧ ∃ front last, tokens = front ++ [last] ∧ pos = last.loc.stop) ∧
      found.length ≤ tokens.length := by
  obtain ⟨q, parsed⟩ := parse_isOk { rest := tokens, diagnostics := before }
  obtain ⟨found, recorded, traced, few⟩ := parse_traced parsed
  obtain ⟨places, same, sorted, -⟩ := traced.sorted ordered
  refine ⟨q, found, parsed, ?_, ⟨places, same, sorted⟩, traced.countP_expectedToken_le, ?_, few⟩
  · rw [recorded, entries_foldl_push]
  · intro earlier later pos expected split
    exact traced.expectedToken_last split

/-- A sign out of place, and a value that is missing. -/
theorem parse_in_source_order_misplaced :
    let tokens : List Token :=
      [⟨.equals, ⟨⟨1, 1⟩, ⟨1, 2⟩⟩, "="⟩, ⟨.print, ⟨⟨1, 3⟩, ⟨1, 8⟩⟩, "print"⟩]
    TokensInOrder tokens ∧
      ∃ q found, Parser.parse { rest := tokens, diagnostics := { file := "s" } } = .ok q ∧
        q.diagnostics.entries = found ∧
        (∃ places : List Position, found.map Diagnostic.place? = places.map some ∧
          places.Pairwise Position.AtMost) ∧
        found.length ≤ 2 := by
  intro tokens
  have ordered : TokensInOrder tokens := by decide
  obtain ⟨q, found, parsed, recorded, sorted, -, -, few⟩ :=
    parse_in_source_order ordered { file := "s" }
  exact ⟨ordered, q, found, parsed, recorded, sorted, few⟩

end Parser

end RouteScript
