/-!
Results of computations that can fail.

A computation that succeeds is taken apart step by step: a sequence (`ok_of_bind`), a fold
(`ok_of_foldlM`) and a computation whose failure is worded anew (`ok_of_mapError`). One that is
made for every element of a list succeeds if each of them does (`mapM_isOk`), and fails in the
one way in which they can (`mapM_cases`).
-/

namespace RouteScript

variable {ε ε' α β : Type}

/-- Opens one step of a sequence that succeeds. -/
theorem ok_of_bind {x : Except ε α} {f : α → Except ε β} {b : β} (h : (x >>= f) = .ok b) :
    ∃ a, x = .ok a ∧ f a = .ok b := by
  cases x with
  | error e => cases h
  | ok a => exact ⟨a, rfl, h⟩

/-- What every step of a fold keeps holds of its result. -/
theorem ok_of_foldlM {P : β → Prop} {f : β → α → Except ε β}
    (keeps : ∀ {b a b'}, P b → f b a = .ok b' → P b') {l : List α} {b b' : β} (start : P b)
    (h : l.foldlM f b = .ok b') : P b' := by
  induction l generalizing b with
  | nil =>
    cases h
    exact start
  | cons a l ih =>
    rw [List.foldlM_cons] at h
    obtain ⟨c, first, rest⟩ := ok_of_bind h
    exact ih (keeps start first) rest

theorem mapM_isOk {f : α → Except ε β} {l : List α} (each : ∀ a ∈ l, ∃ b, f a = .ok b) :
    ∃ bs, l.mapM f = .ok bs := by
  induction l with
  | nil => exact ⟨[], rfl⟩
  | cons a l ih =>
    rw [List.forall_mem_cons] at each
    obtain ⟨b, first⟩ := each.1
    obtain ⟨bs, rest⟩ := ih each.2
    rw [List.mapM_cons, first, rest]
    exact ⟨b :: bs, rfl⟩

/-- Where elements fail in one way only, so does the list; its result is as long as the list. -/
theorem mapM_cases {f : α → Except ε β} {e : ε} (each : ∀ a, (∃ b, f a = .ok b) ∨ f a = .error e)
    (l : List α) : (∃ bs, l.mapM f = .ok bs ∧ bs.length = l.length) ∨ l.mapM f = .error e := by
  induction l with
  | nil => exact .inl ⟨[], rfl, rfl⟩
  | cons a l ih =>
    rw [List.mapM_cons]
    rcases each a with ⟨b, first⟩ | first
    · rw [first]
      rcases ih with ⟨bs, rest, length⟩ | rest
      · rw [rest]
        exact .inl ⟨b :: bs, rfl, congrArg (· + 1) length⟩
      · rw [rest]
        exact .inr rfl
    · rw [first]
      exact .inr rfl

theorem ok_of_mapError {x : Except ε α} {f : ε → ε'} {a : α} (h : x.mapError f = .ok a) :
    x = .ok a := by
  cases x with
  | error e => cases h
  | ok b =>
    cases h
    rfl

end RouteScript
