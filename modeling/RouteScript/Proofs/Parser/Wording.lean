import RouteScript.Proofs.Lexer.Seam
import RouteScript.Proofs.Parser.Acceptance

/-!
The grammar takes tokens at their word.

Where a token stands is of no matter to the grammar: tokens with the same words are
spellings of the same script (`Covers.of_words`). And scripts in scope may stand one
behind the other (`Covers.append`): a name that has a value does not lose it.
-/

namespace RouteScript.Script

/-! ### Words -/

section Words

variable {t u : Token} {ts us : List Token}

theorem kind_of_word (same : u.word = t.word) : u.kind = t.kind := congrArg Prod.fst same

theorem text_of_word (same : u.word = t.word) : u.text = t.text := congrArg Prod.snd same

theorem Operand.Spelled.of_word {o : Operand} (h : o.Spelled t) (same : u.word = t.word) :
    o.Spelled u := by
  have kind' := kind_of_word same
  cases h with
  | text kind =>
    rw [← text_of_word same]
    exact .text (kind'.trans kind)
  | name kind =>
    rw [← text_of_word same]
    exact .name (kind'.trans kind)

theorem Expression.Spelled.of_words {e : Expression} (h : e.Spelled ts)
    (same : us.map Token.word = ts.map Token.word) : e.Spelled us := by
  induction h generalizing us with
  | single spelled =>
    obtain ⟨u, rfl, word⟩ := List.map_eq_singleton_iff.mp same
    exact .single (spelled.of_word word)
  | join spelled kind _ ih =>
    obtain ⟨u, us, rfl, word, same⟩ := List.map_eq_cons_iff.mp same
    obtain ⟨k, us, rfl, word', same⟩ := List.map_eq_cons_iff.mp same
    exact .join (spelled.of_word word) ((kind_of_word word').trans kind) (ih same)

theorem BodySpelled.of_words {body : Option Expression} (h : BodySpelled body ts)
    (same : us.map Token.word = ts.map Token.word) : BodySpelled body us := by
  cases h with
  | absent =>
    obtain rfl := List.map_eq_nil_iff.mp same
    exact .absent
  | present kind spelled =>
    obtain ⟨k, us, rfl, word, same⟩ := List.map_eq_cons_iff.mp same
    exact .present ((kind_of_word word).trans kind) (spelled.of_words same)

theorem StatusSpelled.of_words {status : Option String} (h : StatusSpelled status ts)
    (same : us.map Token.word = ts.map Token.word) : StatusSpelled status us := by
  cases h with
  | absent =>
    obtain rfl := List.map_eq_nil_iff.mp same
    exact .absent
  | written kind =>
    obtain ⟨u, rfl, word⟩ := List.map_eq_singleton_iff.mp same
    rw [← text_of_word word]
    exact .written ((kind_of_word word).trans kind)

theorem Reaction.Spelled.of_words {reaction : Reaction} (h : reaction.Spelled ts)
    (same : us.map Token.word = ts.map Token.word) : reaction.Spelled us := by
  cases h with
  | ignore =>
    obtain rfl := List.map_eq_nil_iff.mp same
    exact .ignore
  | capture kind kind' =>
    obtain ⟨k, us, rfl, word, same⟩ := List.map_eq_cons_iff.mp same
    obtain ⟨n, rfl, word'⟩ := List.map_eq_singleton_iff.mp same
    rw [← text_of_word word']
    exact .capture ((kind_of_word word).trans kind) ((kind_of_word word').trans kind')
  | compare kind spelled =>
    obtain ⟨k, us, rfl, word, same⟩ := List.map_eq_cons_iff.mp same
    exact .compare ((kind_of_word word).trans kind) (spelled.of_words same)

theorem Statement.Spelled.of_words {s : Statement} (h : s.Spelled ts)
    (same : us.map Token.word = ts.map Token.word) : s.Spelled us := by
  cases h with
  | assign kind equals spelled =>
    obtain ⟨n, us, rfl, word, same⟩ := List.map_eq_cons_iff.mp same
    obtain ⟨k, us, rfl, word', same⟩ := List.map_eq_cons_iff.mp same
    rw [← text_of_word word]
    exact .assign ((kind_of_word word).trans kind) ((kind_of_word word').trans equals)
      (spelled.of_words same)
  | print kind spelled =>
    obtain ⟨k, us, rfl, word, same⟩ := List.map_eq_cons_iff.mp same
    exact .print ((kind_of_word word).trans kind) (spelled.of_words same)
  | request method url body status reaction =>
    obtain ⟨k, us, rfl, word, same⟩ := List.map_eq_cons_iff.mp same
    simp only [List.map_append] at same
    obtain ⟨urls, us, rfl, inUrl, same⟩ := List.map_eq_append_iff.mp same
    obtain ⟨bodies, us, rfl, inBody, same⟩ := List.map_eq_append_iff.mp same
    obtain ⟨statuses, us, rfl, inStatus, inReaction⟩ := List.map_eq_append_iff.mp same
    rw [← kind_of_word word] at method
    exact .request method (url.of_words inUrl) (body.of_words inBody) (status.of_words inStatus)
      (reaction.of_words inReaction)

/-- Tokens with the words of a script spell out the same statements. -/
theorem sentences_of_words (script : List Sentence)
    (same : us.map Token.word = (script.flatMap (·.tokens)).map Token.word) :
    ∃ script' : List Sentence, script'.flatMap (·.tokens) = us ∧
      script'.map (·.statement) = script.map (·.statement) := by
  induction script generalizing us with
  | nil =>
    obtain rfl := List.map_eq_nil_iff.mp same
    exact ⟨[], rfl, rfl⟩
  | cons first rest ih =>
    rw [List.flatMap_cons, List.map_append] at same
    obtain ⟨vs, us, rfl, inFirst, inRest⟩ := List.map_eq_append_iff.mp same
    obtain ⟨rest', spelled, statements⟩ := ih inRest
    let first' : Sentence := ⟨first.statement, vs, first.spelled.of_words inFirst⟩
    refine ⟨first' :: rest', ?_, ?_⟩
    · rw [List.flatMap_cons, spelled]
    · rw [List.map_cons, List.map_cons, statements]

theorem Covers.of_words {script : List Sentence} (covers : Covers script ts)
    (same : us.map Token.word = ts.map Token.word) :
    ∃ script', Covers script' us ∧ script'.map (·.statement) = script.map (·.statement) := by
  rw [← covers.spelled] at same
  obtain ⟨script', spelled, statements⟩ := sentences_of_words script same
  refine ⟨script', ⟨spelled, ?_⟩, statements⟩
  rw [statements]
  exact covers.scope

end Words

/-! ### One script behind another -/

theorem InScopeOf.append {α : Type} {reads : α → List String} {target? : α → Option String}
    {names : List String} {items more : List α} (h : InScopeOf reads target? names items)
    (h' : InScopeOf reads target? names more) : InScopeOf reads target? names (items ++ more) := by
  induction items generalizing names with
  | nil => exact h'
  | cons a rest ih =>
    constructor
    · exact h.1
    · apply ih h.2
      apply h'.mono
      intro n known
      exact List.mem_append_right _ known

theorem Covers.append {script more : List Sentence} {ts us : List Token} (covers : Covers script ts)
    (covers' : Covers more us) : Covers (script ++ more) (ts ++ us) := by
  constructor
  · rw [List.flatMap_append, covers.spelled, covers'.spelled]
  · rw [List.map_append]
    exact inScope_iff.mpr ((inScope_iff.mp covers.scope).append (inScope_iff.mp covers'.scope))

end RouteScript.Script
