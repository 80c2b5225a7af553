/-!
Association lists that keep their order.

`Assoc.set` replaces the value of a key that is present, in its place, and adds a
new key at the end; look-up is the library's `List.lookup`.
-/

namespace RouteScript.Assoc

variable {κ ν : Type} [BEq κ]

/-- Gives `key` the value `v`. -/
def set (key : κ) (v : ν) : List (κ × ν) → List (κ × ν)
  | [] => [(key, v)]
  | (k, w) :: rest => if key == k then (k, v) :: rest else (k, w) :: set key v rest

/-- The pairs in order, a later value of a key replacing an earlier one. -/
def ofPairs (pairs : List (κ × ν)) : List (κ × ν) :=
  pairs.foldl (fun entries (k, v) => set k v entries) []

theorem lookup_set_self [LawfulBEq κ] (key : κ) (v : ν) (entries : List (κ × ν)) :
    (set key v entries).lookup key = some v := by
  induction entries with
  | nil => simp [set]
  | cons e rest ih =>
    obtain ⟨k, w⟩ := e
    by_cases h : key = k
    · subst h
      simp [set]
    · simp [set, beq_false_of_ne h, List.lookup_cons, ih]

theorem lookup_set_of_ne [LawfulBEq κ] {key other : κ} (ne : other ≠ key) (v : ν)
    (entries : List (κ × ν)) : (set key v entries).lookup other = entries.lookup other := by
  induction entries with
  | nil => simp [set, List.lookup_cons, beq_false_of_ne ne]
  | cons e rest ih =>
    obtain ⟨k, w⟩ := e
    by_cases h : key = k
    · subst h
      simp [set, List.lookup_cons, beq_false_of_ne ne]
    · simp only [set, beq_false_of_ne h, Bool.false_eq_true, if_false, List.lookup_cons, ih]

theorem keys_set [LawfulBEq κ] (key : κ) (v : ν) (entries : List (κ × ν)) :
    (set key v entries).map Prod.fst =
      if key ∈ entries.map Prod.fst then entries.map Prod.fst
      else entries.map Prod.fst ++ [key] := by
  induction entries with
  | nil => rfl
  | cons e rest ih =>
    obtain ⟨k, w⟩ := e
    by_cases same : key = k
    · subst same
      simp [set]
    · simp only [set, beq_false_of_ne same, Bool.false_eq_true, if_false, List.map_cons, ih,
        List.mem_cons, same, false_or]
      split <;> rfl

/-- No key comes twice. -/
theorem nodup_keys_set [LawfulBEq κ] (key : κ) (v : ν) {entries : List (κ × ν)}
    (distinct : (entries.map Prod.fst).Nodup) : ((set key v entries).map Prod.fst).Nodup := by
  rw [keys_set]
  split
  · exact distinct
  · next new =>
    have apart : ∀ k ∈ entries.map Prod.fst, ∀ k' ∈ [key], k ≠ k' := by
      intro k mem k' mem' same
      rw [List.mem_singleton] at mem'
      exact new (mem' ▸ same ▸ mem)
    exact List.nodup_append.mpr ⟨distinct, by simp, apart⟩

/-- A new key goes to the end. -/
theorem set_of_new [LawfulBEq κ] {key : κ} (v : ν) {entries : List (κ × ν)}
    (new : key ∉ entries.map Prod.fst) : set key v entries = entries ++ [(key, v)] := by
  induction entries with
  | nil => rfl
  | cons e rest ih =>
    obtain ⟨k, w⟩ := e
    simp only [List.map_cons, List.mem_cons, not_or] at new
    simp only [set, beq_false_of_ne new.1, Bool.false_eq_true, if_false, ih new.2,
      List.cons_append]

end RouteScript.Assoc
