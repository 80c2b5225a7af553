import RouteScript.Proofs.Lexer.Refinement

/-!
Scripts joined by a newline.

What the scanner finds is taken apart from where it stands: the words, and whether an
error is among the notes (`Wording`). A script without an error is left at its end as it
was begun: no word or number goes on over a newline, every literal is closed, and a
comment ends with the line. So the wording of two scripts joined by a newline is that of
the first followed by that of the second (`wording_join`).

* `Alike`: one step over a script, and one over a longer script, find the same and go
  on at the same place.
* `wording_seam`: so do all steps up to the end of the shorter one.
-/

namespace RouteScript

namespace Flat

open Lexer (scanFrom_of_drop)

/-- What was found apart from where it stands. -/
@[ext]
structure Wording where
  words : List (TokenKind × String) := []
  /-- An error was noted. -/
  broken : Bool := false

instance : Append Wording := ⟨fun w v => ⟨w.words ++ v.words, w.broken || v.broken⟩⟩

/-- The wording of some tokens with notes. -/
def wording (found : List Token × List Diagnostic) : Wording :=
  ⟨found.1.map Token.word, found.2.any Diagnostic.fatal⟩

/-- The wording of what a step finds. -/
def Step.wording (s : Step) : Wording := Flat.wording (s.token.toList, s.found)

section Wording

variable {bytes : List UInt8} {i : Nat} {b : UInt8} {rest : List UInt8}

@[simp] theorem Wording.words_append (w v : Wording) : (w ++ v).words = w.words ++ v.words := rfl

@[simp] theorem Wording.broken_append (w v : Wording) :
    (w ++ v).broken = (w.broken || v.broken) := rfl

theorem Wording.append_assoc (u v w : Wording) : u ++ v ++ w = u ++ (v ++ w) := by
  apply Wording.ext
  · exact List.append_assoc ..
  · exact Bool.or_assoc ..

theorem Wording.nil_append (w : Wording) : wording ([], []) ++ w = w := by
  apply Wording.ext
  · exact List.nil_append _
  · exact Bool.false_or _

theorem Wording.append_nil (w : Wording) : w ++ wording ([], []) = w := by
  apply Wording.ext
  · exact List.append_nil _
  · exact Bool.or_false _

theorem wording_append (tokens tokens' : List Token) (found found' : List Diagnostic) :
    wording (tokens ++ tokens', found ++ found') =
      wording (tokens, found) ++ wording (tokens', found') := by
  apply Wording.ext
  · exact List.map_append
  · exact List.any_append

theorem wording_of_drop (left : bytes.drop i = b :: rest) :
    wording (scanFrom bytes i) =
      (step bytes i).wording ++ wording (scanFrom bytes (step bytes i).next) := by
  rw [scanFrom_of_drop left]
  exact wording_append ..

theorem scanFrom_of_le (outside : bytes.length ≤ i) : scanFrom bytes i = ([], []) := by
  rw [scanFrom]
  exact dif_neg (Nat.not_lt_of_le outside)

/-- Nothing is found at a newline. -/
theorem scanFrom_newline (left : bytes.drop i = 10 :: rest) :
    scanFrom bytes i = scanFrom bytes (i + 1) := by
  have passed : step bytes i = { next := i + 1 } := by
    unfold step
    rw [left]
    rfl
  rw [scanFrom_of_drop left, passed]
  rfl

end Wording

/-! ### Runs, comments and literals before a seam

A script may be followed by nothing more, or by a newline. -/

section Seam

variable {tail : List UInt8}

theorem takeWhile_seam (rest : List UInt8) (seam : ∀ b ∈ tail.head?, b = 10) {accept : UInt8 → Bool}
    (breaks : accept 10 = false) : (rest ++ tail).takeWhile accept = rest.takeWhile accept := by
  have ends : tail.takeWhile accept = [] := by
    cases tail with
    | nil => rfl
    | cons b tail =>
      cases seam b rfl
      exact List.takeWhile_cons_of_neg (by simp [breaks])
  rw [List.takeWhile_append]
  split
  · next all =>
    rw [ends, List.append_nil, (List.takeWhile_prefix accept).eq_of_length all]
  · rfl

theorem lineLength_le (rest : List UInt8) : lineLength rest ≤ rest.length := by
  induction rest with
  | nil => exact Nat.le_refl 0
  | cons b rest ih =>
    unfold lineLength
    split
    · simp
    · rw [List.length_cons]
      omega

/-- A comment ends on its line; the last line ends at the seam. -/
theorem lineLength_seam (rest : List UInt8) (seam : ∀ b ∈ tail.head?, b = 10) :
    lineLength (rest ++ tail) = lineLength rest ∨
      lineLength rest = rest.length ∧ ∃ more, tail = 10 :: more ∧
        lineLength (rest ++ tail) = rest.length + 1 := by
  induction rest with
  | nil =>
    cases tail with
    | nil => exact .inl rfl
    | cons b more =>
      cases seam b rfl
      exact .inr ⟨rfl, more, rfl, rfl⟩
  | cons b rest ih =>
    simp only [List.cons_append, lineLength]
    by_cases newline : b = 10
    · simp [newline]
    · simp only [newline, if_false]
      rcases ih with same | ⟨all, more, rfl, longer⟩
      · exact .inl (by rw [same])
      · refine .inr ⟨by rw [all, List.length_cons, Nat.add_comm], more, rfl, ?_⟩
        rw [longer, List.length_cons, Nat.add_comm]

/-- From `i` to `s` it is as far as from `j` to `t`, and not farther than `n`. -/
def Abreast (n i s j t : Nat) : Prop := ∃ k ≤ n, s = i + k ∧ t = j + k

theorem Abreast.later {n d i s j t : Nat} (even : Abreast n (i + d) s (j + d) t) :
    Abreast (n + d) i s j t := by
  obtain ⟨k, le, rfl, rfl⟩ := even
  refine ⟨k + d, Nat.add_le_add_right le d, ?_, ?_⟩
  · rw [Nat.add_assoc, Nat.add_comm d k]
  · rw [Nat.add_assoc, Nat.add_comm d k]

/-- A literal that is closed ends there, whatever follows and wherever it stands. -/
theorem literal_seam (quote : UInt8) (i j : Nat) (rest : List UInt8)
    (closed : tail = [] ∨ (literal quote i rest).stop < i + rest.length) :
    (literal quote j (rest ++ tail)).content = (literal quote i rest).content ∧
      Abreast rest.length i (literal quote i rest).stop j (literal quote j (rest ++ tail)).stop := by
  fun_induction literal quote i rest generalizing j with
  | case1 i =>
    -- No byte is left for a closing quote.
    rcases closed with rfl | before
    · exact ⟨rfl, 0, Nat.le_refl 0, rfl, rfl⟩
    · exact absurd before (Nat.lt_irrefl i)
  | case2 i rest =>
    rw [List.cons_append, literal_quote]
    exact ⟨rfl, 0, Nat.zero_le _, rfl, rfl⟩
  | case3 i other =>
    rcases closed with rfl | before
    · rw [List.append_nil, literal_last other]
      exact ⟨rfl, 1, Nat.le_refl 1, rfl, rfl⟩
    · exact absurd before (Nat.lt_irrefl (i + 1))
  | case4 i e rest l x known other ih =>
    have within : tail = [] ∨ l.stop < i + 2 + rest.length := by
      rwa [Nat.add_right_comm i 2]
    obtain ⟨same, even⟩ := ih (j + 2) within
    rw [List.cons_append, List.cons_append, literal_known other known]
    exact ⟨congrArg (x :: ·) same, even.later⟩
  | case5 i e rest l unknown other ih =>
    have within : tail = [] ∨ l.stop < i + 2 + rest.length := by
      rwa [Nat.add_right_comm i 2]
    obtain ⟨same, even⟩ := ih (j + 2) within
    rw [List.cons_append, List.cons_append, literal_unknown other unknown]
    exact ⟨congrArg (e :: ·) same, even.later⟩
  | case6 i b rest other plain l ih =>
    have within : tail = [] ∨ l.stop < i + 1 + rest.length := by
      rwa [Nat.add_right_comm i 1]
    obtain ⟨same, even⟩ := ih (j + 1) within
    rw [List.cons_append, literal_plain other plain]
    exact ⟨congrArg (b :: ·) same, even.later⟩

end Seam

/-! ### Steps before a seam -/

/-- A step at byte number `i` of a script and one at number `j` of a longer one find the
same, and go on at the same place. -/
structure Alike (bytes : List UInt8) (i : Nat) (s : Step) (whole : List UInt8) (j : Nat) (t : Step) :
    Prop where
  wording : t.wording = s.wording
  next : ∃ k ≤ bytes.length - i, s.next = i + k ∧ scanFrom whole t.next = scanFrom whole (j + k)

section Steps

variable {bytes whole rest tail : List UInt8} {i j : Nat} {b : UInt8}

theorem length_of_drop (left : bytes.drop i = b :: rest) : bytes.length = i + 1 + rest.length := by
  have size := congrArg List.length left
  rw [List.length_drop, List.length_cons] at size
  omega

theorem Alike.of_length {s t : Step} (left : bytes.drop i = rest) {k : Nat} (le : k ≤ rest.length)
    (wording : t.wording = s.wording) (next : s.next = i + k) (next' : t.next = j + k) :
    Alike bytes i s whole j t := by
  refine ⟨wording, k, ?_, next, by rw [next']⟩
  rw [← List.length_drop, left]
  exact le

theorem symbol_alike (left : bytes.drop i = b :: rest) (kind : TokenKind) (text : String) :
    Alike bytes i (symbol bytes i kind text) whole j (symbol whole j kind text) :=
  .of_length left (Nat.le_add_left 1 _) rfl rfl rfl

theorem comment_alike (left : bytes.drop i = b :: rest) (left' : whole.drop j = b :: (rest ++ tail))
    (seam : ∀ b ∈ tail.head?, b = 10) :
    Alike bytes i { next := i + lineLength (b :: rest) } whole j
      { next := j + lineLength (b :: (rest ++ tail)) } := by
  rcases lineLength_seam (b :: rest) seam with same | ⟨all, more, rfl, longer⟩
  · exact .of_length left (lineLength_le _) rfl rfl (congrArg (j + ·) same)
  · -- The comment reaches the seam, and the longer step has passed over the newline as well.
    refine ⟨rfl, (b :: rest).length, ?_, congrArg (i + ·) all, ?_⟩
    · apply Nat.le_of_eq
      rw [← left, List.length_drop]
    · have newline : whole.drop (j + (b :: rest).length) = 10 :: more := by
        rw [← List.drop_drop, left', ← List.cons_append, List.drop_left]
      rw [scanFrom_newline newline]
      exact congrArg (fun n => scanFrom whole (j + n)) longer

theorem string_next (bytes : List UInt8) (i : Nat) (quote : UInt8) (rest : List UInt8) :
    (string bytes i quote rest).next =
      let stop := (literal quote (i + 1) rest).stop
      if stop < bytes.length then stop + 1 else stop := rfl

theorem string_wording (bytes : List UInt8) (i : Nat) (quote : UInt8) (rest : List UInt8) :
    (string bytes i quote rest).wording =
      ⟨[(.string, Lexer.contentText (literal quote (i + 1) rest).content)],
        !decide ((literal quote (i + 1) rest).stop < bytes.length)⟩ := by
  by_cases closed : (literal quote (i + 1) rest).stop < bytes.length
  · by_cases empty : Lexer.contentText (literal quote (i + 1) rest).content = ""
    · simp [Step.wording, wording, string, Token.word, closed, empty, Diagnostic.fatal]
    · simp [Step.wording, wording, string, Token.word, closed, empty, Diagnostic.fatal]
  · simp [Step.wording, wording, string, Token.word, closed, Diagnostic.fatal]

theorem string_alike (left : bytes.drop i = b :: rest) (left' : whole.drop j = b :: (rest ++ tail))
    (closed : tail = [] ∨ (string bytes i b rest).wording.broken = false) :
    Alike bytes i (string bytes i b rest) whole j (string whole j b (rest ++ tail)) := by
  have size := length_of_drop left
  have size' := length_of_drop left'
  rw [List.length_append, ← Nat.add_assoc] at size'
  rw [string_wording, Bool.not_eq_false', decide_eq_true_iff, size] at closed
  obtain ⟨content, k, le, stop, stop'⟩ := literal_seam b (i + 1) (j + 1) rest closed
  have ends : (literal b (j + 1) (rest ++ tail)).stop < whole.length ↔
      (literal b (i + 1) rest).stop < bytes.length := by
    rw [size, size', stop, stop']
    rcases closed with rfl | before
    · simp
    · rw [stop] at before
      omega
  have same : (string whole j b (rest ++ tail)).wording = (string bytes i b rest).wording := by
    simp only [string_wording, content, ends]
  by_cases inside : (literal b (i + 1) rest).stop < bytes.length
  · have next : (string bytes i b rest).next = i + (k + 2) := by
      rw [string_next, if_pos inside, stop]
      omega
    have next' : (string whole j b (rest ++ tail)).next = j + (k + 2) := by
      rw [string_next, if_pos (ends.mpr inside), stop']
      omega
    refine .of_length left ?_ same next next'
    rw [stop, size] at inside
    rw [List.length_cons]
    omega
  · have next : (string bytes i b rest).next = i + (k + 1) := by
      rw [string_next, if_neg inside, stop]
      omega
    have next' : (string whole j b (rest ++ tail)).next = j + (k + 1) := by
      rw [string_next, if_neg (mt ends.mp inside), stop']
      omega
    exact .of_length left (Nat.succ_le_succ le) same next next'

theorem word_alike (left : bytes.drop i = rest) (seam : ∀ b ∈ tail.head?, b = 10) :
    Alike bytes i (word bytes i rest) whole j (word whole j (rest ++ tail)) := by
  have same : (rest ++ tail).takeWhile isLetter = rest.takeWhile isLetter :=
    takeWhile_seam rest seam rfl
  refine .of_length left (List.takeWhile_prefix isLetter).length_le ?_ rfl ?_
  · simp [Step.wording, wording, word, Token.word, same]
  · simp [word, same]

theorem number_alike (left : bytes.drop i = rest) (seam : ∀ b ∈ tail.head?, b = 10) :
    Alike bytes i (number bytes i rest) whole j (number whole j (rest ++ tail)) := by
  have same : (rest ++ tail).takeWhile isDigit = rest.takeWhile isDigit :=
    takeWhile_seam rest seam rfl
  refine .of_length left (List.takeWhile_prefix isDigit).length_le ?_ rfl ?_
  · simp [Step.wording, wording, number, Token.word, same]
  · simp [number, same]

/-- Before a seam, a step that meets no error finds the same in both scripts. -/
theorem step_alike (left : bytes.drop i = b :: rest) (left' : whole.drop j = b :: (rest ++ tail))
    (seam : ∀ b ∈ tail.head?, b = 10)
    (closed : tail = [] ∨ (step bytes i).wording.broken = false) :
    Alike bytes i (step bytes i) whole j (step whole j) := by
  unfold step at closed ⊢
  simp only [left, left'] at closed ⊢
  by_cases comment : b = 35
  · rw [if_pos comment, if_pos comment]
    exact comment_alike left left' seam
  simp only [if_neg comment] at closed ⊢
  by_cases equals : b = 61
  · rw [if_pos equals, if_pos equals]
    exact symbol_alike left .equals "="
  simp only [if_neg equals] at closed ⊢
  by_cases plus : b = 43
  · rw [if_pos plus, if_pos plus]
    exact symbol_alike left .plus "+"
  simp only [if_neg plus] at closed ⊢
  by_cases question : b = 63
  · rw [if_pos question, if_pos question]
    exact symbol_alike left .question "?"
  simp only [if_neg question] at closed ⊢
  by_cases quote : b = 34 ∨ b = 39
  · rw [if_pos quote] at closed ⊢
    rw [if_pos quote]
    exact string_alike left left' closed
  rw [if_neg quote, if_neg quote]
  by_cases letter : isLetter b = true
  · rw [if_pos letter, if_pos letter]
    exact word_alike left seam
  rw [if_neg letter, if_neg letter]
  by_cases digit : isDigit b = true
  · rw [if_pos digit, if_pos digit]
    exact number_alike left seam
  rw [if_neg digit, if_neg digit]
  exact .of_length left (Nat.le_add_left 1 _) rfl rfl rfl

end Steps

/-! ### Scripts before a seam -/

/-- A script without an error is found in front of a seam as it is found alone. -/
theorem wording_seam (bytes : List UInt8) (i : Nat) (whole : List UInt8) (j : Nat) {tail : List UInt8}
    (held : whole.drop j = bytes.drop i ++ tail) (seam : ∀ b ∈ tail.head?, b = 10)
    (closed : tail = [] ∨ (wording (scanFrom bytes i)).broken = false) :
    wording (scanFrom whole j) =
      wording (scanFrom bytes i) ++ wording (scanFrom whole (j + (bytes.length - i))) := by
  induction i using scanFrom.induct bytes generalizing j with
  | case1 i inside found =>
    rename_i ih
    have left := List.drop_eq_getElem_cons inside
    have left' := held
    rw [left, List.cons_append] at left'
    rw [wording_of_drop left] at closed ⊢
    -- Both steps pass over `k` bytes, and these are bytes of the shorter script.
    obtain ⟨same, k, le, next, next'⟩ := step_alike left left' seam
      (closed.imp_right fun calm => (Bool.or_eq_false_iff.mp calm).1)
    have held' : whole.drop (j + k) = bytes.drop found.next ++ tail := by
      rw [← List.drop_drop, held, List.drop_append_of_le_length (by rwa [List.length_drop]),
        List.drop_drop, ← next]
    have end' : j + k + (bytes.length - found.next) = j + (bytes.length - i) := by
      have : found.next = i + k := next
      omega
    have rest := ih (j + k) held' (closed.imp_right fun calm => (Bool.or_eq_false_iff.mp calm).2)
    calc
      wording (scanFrom whole j)
          = (step whole j).wording ++ wording (scanFrom whole (step whole j).next) :=
        wording_of_drop left'
      _ = found.wording ++ wording (scanFrom whole (j + k)) := by rw [same, next']
      _ = found.wording ++ wording (scanFrom bytes found.next) ++
            wording (scanFrom whole (j + (bytes.length - i))) := by
        rw [rest, end', Wording.append_assoc]
  | case2 i outside =>
    have outside := Nat.le_of_not_lt outside
    rw [scanFrom_of_le outside, Nat.sub_eq_zero_of_le outside, Nat.add_zero, Wording.nil_append]

/-- What is found does not depend on what stands before. -/
theorem wording_drop (bytes : List UInt8) (i : Nat) :
    wording (scanFrom bytes i) = wording (scanFrom (bytes.drop i) 0) := by
  have alone := wording_seam (bytes.drop i) 0 bytes i (List.append_nil _).symm nofun (.inl rfl)
  have past : scanFrom bytes (i + ((bytes.drop i).length - 0)) = ([], []) := by
    apply scanFrom_of_le
    rw [List.length_drop]
    omega
  rw [alone, past]
  exact Wording.append_nil _

/-- The wording of a script without an error, with another one on the lines behind it, is
that of both in order. -/
theorem wording_join {a : List UInt8} (closed : (wording (scanFrom a 0)).broken = false)
    (b : List UInt8) :
    wording (scanFrom (a ++ 10 :: b) 0) = wording (scanFrom a 0) ++ wording (scanFrom b 0) := by
  have seam : ∀ c ∈ (10 :: b).head?, c = 10 := by
    rintro c ⟨⟩
    rfl
  have newline : (a ++ 10 :: b).drop a.length = 10 :: b := List.drop_left
  have behind : (a ++ 10 :: b).drop (a.length + 1) = b := drop_succ newline
  rw [wording_seam a 0 (a ++ 10 :: b) 0 rfl seam (.inr closed), Nat.sub_zero, Nat.zero_add,
    scanFrom_newline newline, wording_drop (a ++ 10 :: b), behind]

end Flat

end RouteScript
