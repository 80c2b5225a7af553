import RouteScript.Proofs.Lexer.Seam
import RouteScript.Proofs.Text.Encoding

/-!
Scripts written out from their words.

A list of words can be written in many ways (`Rendered`). Letters, digits and symbols stand
for themselves. A string is a literal in double quotes, in which newlines and tabs may be
escaped or not (`Escaped`). Between two words there is something that holds no word
(`Trivia`): comments, and characters that begin nothing.

However they are written, the lexer gives the words back, and notes nothing but the strings
without content (`scan_of_rendered`).
-/

namespace RouteScript

/-! ### Ways of writing -/

/-- A character outside of literals and comments that begins neither of them and no word. -/
def isFiller (c : Char) : Bool := !c.isAlphanum && !"\"'=+?#".toList.contains c

/-- Characters without a word. A comment ends with its line. -/
inductive Trivia : List Char → Prop where
  | nil : Trivia []
  | filler {c : Char} {rest : List Char} : isFiller c = true → Trivia rest → Trivia (c :: rest)
  | comment {body rest : List Char} : '\n' ∉ body → Trivia rest →
      Trivia ('#' :: (body ++ '\n' :: rest))

/-- The characters that can be escaped, each with the one that follows the backslash. -/
def escapes : List (Char × Char) := [('\n', 'n'), ('\t', 't'), ('"', '"'), ('\\', '\\')]

/-- A content and a way to write it between double quotes. Quotes and backslashes are
escaped. -/
inductive Escaped : List Char → List Char → Prop where
  | nil : Escaped [] []
  | raw {c : Char} {content written : List Char} : c ≠ '"' → c ≠ '\\' →
      Escaped content written → Escaped (c :: content) (c :: written)
  | escape {c e : Char} {content written : List Char} : (c, e) ∈ escapes →
      Escaped content written → Escaped (c :: content) ('\\' :: e :: written)

/-- A word and a way to write it. -/
inductive Written : TokenKind × String → List Char → Prop where
  | identifier {letters : List Char} : letters ≠ [] → (∀ c ∈ letters, c.isAlpha = true) →
      String.ofList letters ∉ Token.reserved.map Prod.fst →
      Written (.identifier, String.ofList letters) letters
  | keyword {text : String} {kind : TokenKind} : (text, kind) ∈ Token.reserved →
      Written (kind, text) text.toList
  | number {digits : List Char} : digits ≠ [] → (∀ c ∈ digits, c.isDigit = true) →
      Written (.number, String.ofList digits) digits
  | string {content written : List Char} : Escaped content written →
      Written (.string, String.ofList content) ('"' :: (written ++ ['"']))
  | equals : Written (.equals, "=") ['=']
  | plus : Written (.plus, "+") ['+']
  | question : Written (.question, "?") ['?']

/-- Words and a way to write them, from the first one on. Two words are kept apart. -/
inductive Rendered : List (TokenKind × String) → List Char → Prop where
  | nil : Rendered [] []
  | cons {word : TokenKind × String} {words : List (TokenKind × String)}
      {written gap rest : List Char} : Written word written → Trivia gap →
      (words ≠ [] → gap ≠ []) → Rendered words rest →
      Rendered (word :: words) (written ++ (gap ++ rest))

/-- What there is to note about a token: a string without content. -/
def Token.remarks (t : Token) : List Diagnostic :=
  if t.kind = .string ∧ t.text = "" then [.emptyString t.loc.start] else []

/-! ### Classes of bytes -/

namespace Flat

open Lexer (scanFrom_of_drop)

/-- The bytes that begin a comment, a symbol or a literal. -/
def marks : List UInt8 := [35, 61, 43, 63, 34, 39]

/-- A byte that is passed over between two words. -/
def isIdle (b : UInt8) : Bool := !(marks.contains b || isLetter b || isDigit b)

/-- Neither a word nor a number goes on with these bytes. -/
def Apart (bytes : List UInt8) : Prop := ∀ b ∈ bytes.head?, isLetter b = false ∧ isDigit b = false

theorem forall_ascii {P : Char → UInt8 → Prop}
    (holds : ∀ n < 128, P (Char.ofNat n) (UInt8.ofNat n)) {c : Char} (ascii : c.toNat < 128) :
    P c (UInt8.ofNat c.toNat) := by
  have here := holds c.toNat ascii
  rwa [Char.ofNat_toNat] at here

theorem forall_byte {P : UInt8 → Prop} (holds : ∀ n < 256, P (UInt8.ofNat n)) (b : UInt8) :
    P b := by
  have here := holds b.toNat b.toNat_lt
  rwa [UInt8.ofNat_toNat] at here

theorem isIdle_of_wide {b : UInt8} (wide : 128 ≤ b) : isIdle b = true :=
  forall_byte (P := fun b => 128 ≤ b → isIdle b = true) (by decide +kernel) b wide

theorem isLetter_of_isDigit {b : UInt8} (digit : isDigit b = true) : isLetter b = false :=
  forall_byte (P := fun b => isDigit b = true → isLetter b = false) (by decide +kernel) b digit

theorem isIdle_of_isFiller {c : Char} (filler : isFiller c = true) :
    ∀ b ∈ String.utf8EncodeChar c, isIdle b = true := by
  have table : ∀ n < 128, isFiller (Char.ofNat n) = true → isIdle (UInt8.ofNat n) = true := by
    decide +kernel
  refine forall_utf8EncodeChar (fun b => isIdle_of_wide) fun ascii => ?_
  exact forall_ascii (P := fun c b => isFiller c = true → isIdle b = true) table ascii filler

theorem ne_newline_of_ne {c : Char} (other : c ≠ '\n') : ∀ b ∈ String.utf8EncodeChar c, b ≠ 10 := by
  have table : ∀ n < 128, Char.ofNat n ≠ '\n' → UInt8.ofNat n ≠ 10 := by decide +kernel
  refine forall_utf8EncodeChar (fun b wide => ?_) fun ascii => ?_
  · rintro rfl
    exact absurd wide (by decide)
  · exact forall_ascii (P := fun c b => c ≠ '\n' → b ≠ 10) table ascii other

theorem not_letter_or_digit_of_isIdle {b : UInt8} (idle : isIdle b = true) :
    isLetter b = false ∧ isDigit b = false := by
  unfold isIdle at idle
  simp only [Bool.not_eq_true', Bool.or_eq_false_iff] at idle
  exact ⟨idle.1.2, idle.2⟩

/-! ### What stands between words -/

section Gaps

variable {bytes run tail rest : List UInt8} {i : Nat} {b : UInt8}

theorem drop_of_append (left : bytes.drop i = run ++ tail) :
    bytes.drop (i + run.length) = tail := by
  rw [← List.drop_drop, left, List.drop_left]

theorem step_of_unmarked (left : bytes.drop i = b :: rest) (unmarked : b ∉ marks) :
    step bytes i =
      if isLetter b then word bytes i (b :: rest)
      else if isDigit b then number bytes i (b :: rest)
      else { next := i + 1 } := by
  simp only [marks, List.mem_cons, List.not_mem_nil, or_false, not_or] at unmarked
  obtain ⟨comment, equals, plus, question, double, single⟩ := unmarked
  simp [step, left, comment, equals, plus, question, double, single]

theorem step_of_isIdle (left : bytes.drop i = b :: rest) (idle : isIdle b = true) :
    step bytes i = { next := i + 1 } := by
  unfold isIdle at idle
  simp only [Bool.not_eq_true', Bool.or_eq_false_iff] at idle
  obtain ⟨⟨unmarked, letter⟩, digit⟩ := idle
  rw [step_of_unmarked left (by simpa using unmarked)]
  simp [letter, digit]

theorem scanFrom_of_isIdle (idle : ∀ b ∈ run, isIdle b = true) (left : bytes.drop i = run ++ tail) :
    scanFrom bytes (i + run.length) = scanFrom bytes i := by
  induction run generalizing i with
  | nil => rfl
  | cons b run ih =>
    have passed := step_of_isIdle left (idle b List.mem_cons_self)
    have later := ih (fun b mem => idle b (List.mem_cons_of_mem _ mem)) (drop_succ left)
    rw [List.length_cons, Nat.add_comm run.length, ← Nat.add_assoc, later, scanFrom_of_drop left,
      passed]
    rfl

theorem lineLength_of_ne (others : ∀ b ∈ run, b ≠ 10) (tail : List UInt8) :
    lineLength (run ++ 10 :: tail) = run.length + 1 := by
  induction run with
  | nil => rfl
  | cons b run ih =>
    rw [List.cons_append, lineLength, if_neg (others b List.mem_cons_self),
      ih fun b mem => others b (List.mem_cons_of_mem _ mem), List.length_cons, Nat.add_comm]

theorem scanFrom_of_comment (others : ∀ b ∈ run, b ≠ 10)
    (left : bytes.drop i = 35 :: (run ++ 10 :: tail)) :
    scanFrom bytes (i + (run.length + 2)) = scanFrom bytes i := by
  have passed : step bytes i = { next := i + (run.length + 2) } := by
    have all_others : ∀ b ∈ 35 :: run, b ≠ 10 := by simpa using others
    have through := lineLength_of_ne all_others tail
    rw [List.cons_append] at through
    simp [step, left, through]
  rw [scanFrom_of_drop left, passed]
  rfl

end Gaps

end Flat

open Flat

theorem ne_newline_of_not_mem {cs : List Char} (none : '\n' ∉ cs) : ∀ b ∈ bytesOf cs, b ≠ 10 := by
  intro b mem
  obtain ⟨c, inside, mem⟩ := List.mem_flatMap.mp mem
  refine ne_newline_of_ne ?_ b mem
  rintro rfl
  exact none inside

/-- Nothing is found in what stands between words. -/
theorem Trivia.scanFrom {gap : List Char} (trivia : Trivia gap) {bytes tail : List UInt8} {i : Nat}
    (left : bytes.drop i = bytesOf gap ++ tail) :
    Flat.scanFrom bytes (i + (bytesOf gap).length) = Flat.scanFrom bytes i := by
  induction trivia generalizing i with
  | nil => rfl
  | @filler c rest filler _ ih =>
    rw [bytesOf_cons, List.append_assoc] at left
    have later := ih (drop_of_append left)
    rw [bytesOf_cons, List.length_append, ← Nat.add_assoc, later,
      scanFrom_of_isIdle (isIdle_of_isFiller filler) left]
  | @comment body rest line _ ih =>
    have mark : String.utf8EncodeChar '#' = [35] := rfl
    have newline : String.utf8EncodeChar '\n' = [10] := rfl
    simp only [bytesOf_cons, bytesOf_append, mark, newline, List.append_assoc, List.cons_append,
      List.nil_append] at left
    have whole : bytes.drop i = (35 :: (bytesOf body ++ [10])) ++ (bytesOf rest ++ tail) := by
      rw [left]
      simp
    have later := ih (drop_of_append whole)
    have passed := scanFrom_of_comment (ne_newline_of_not_mem line) left
    simp only [bytesOf_cons, bytesOf_append, mark, newline, List.length_append, List.length_cons,
      List.length_nil] at later ⊢
    rw [← passed, ← later]
    congr 1
    omega

/-- Neither a word nor a number goes on behind trivia. -/
theorem Trivia.apart {gap : List Char} (trivia : Trivia gap) (some' : gap ≠ [])
    (tail : List UInt8) : Apart (bytesOf gap ++ tail) := by
  cases trivia with
  | nil => exact absurd rfl some'
  | @filler c rest filler _ =>
    obtain ⟨b, bs, bytes⟩ := List.exists_cons_of_ne_nil (String.utf8EncodeChar_ne_nil (c := c))
    have idle := isIdle_of_isFiller filler
    rw [bytes] at idle
    rw [bytesOf_cons, bytes]
    rintro b' ⟨⟩
    exact not_letter_or_digit_of_isIdle (idle b List.mem_cons_self)
  | comment line _ =>
    rintro b ⟨⟩
    exact ⟨rfl, rfl⟩

/-! ### Literals -/

section Literals

variable {raw rest : List UInt8} {quote : UInt8}

theorem literal_of_plain (plain : ∀ b ∈ raw, b ≠ quote ∧ b ≠ 92) (i : Nat) (rest : List UInt8) :
    literal quote i (raw ++ rest) =
      { literal quote (i + raw.length) rest with
        content := raw ++ (literal quote (i + raw.length) rest).content } := by
  induction raw generalizing i with
  | nil => rfl
  | cons b raw ih =>
    obtain ⟨other, unescaped⟩ := plain b List.mem_cons_self
    have later := ih (fun b mem => plain b (List.mem_cons_of_mem _ mem)) (i + 1)
    rw [List.cons_append, literal_plain other unescaped, later, Nat.add_assoc, Nat.add_comm 1]
    rfl

theorem plain_of_ne {c : Char} (other : c ≠ '"') (unescaped : c ≠ '\\') :
    ∀ b ∈ String.utf8EncodeChar c, b ≠ 34 ∧ b ≠ 92 := by
  have table : ∀ n < 128, Char.ofNat n ≠ '"' → Char.ofNat n ≠ '\\' →
      UInt8.ofNat n ≠ 34 ∧ UInt8.ofNat n ≠ 92 := by decide +kernel
  refine forall_utf8EncodeChar (fun b wide => ?_) fun ascii => ?_
  · constructor
    · rintro rfl
      exact absurd wide (by decide)
    · rintro rfl
      exact absurd wide (by decide)
  · exact forall_ascii (P := fun c b => c ≠ '"' → c ≠ '\\' → b ≠ 34 ∧ b ≠ 92) table ascii other
      unescaped

/-- A backslash and the byte behind it give back what was escaped. -/
theorem literal_of_escape {c e : Char} (pair : (c, e) ∈ escapes) (i : Nat) (rest : List UInt8) :
    literal 34 i (bytesOf ['\\', e] ++ rest) =
      { literal 34 (i + 2) rest with
        content := bytesOf [c] ++ (literal 34 (i + 2) rest).content } := by
  have known : ∀ p ∈ escapes, ∃ b x, bytesOf ['\\', p.2] = [92, b] ∧ bytesOf [p.1] = [x] ∧
      escape? b = some x := by
    intro p mem
    simp only [escapes, List.mem_cons, List.not_mem_nil, or_false] at mem
    rcases mem with rfl | rfl | rfl | rfl <;> exact ⟨_, _, rfl, rfl, rfl⟩
  obtain ⟨b, x, written, content, known⟩ := known _ pair
  rw [written, content]
  exact literal_known (by decide) known

/-- A written content is read to the closing quote, without a remark. -/
theorem Escaped.literal {content written : List Char} (escaped : Escaped content written) (i : Nat)
    (tail : List UInt8) :
    Flat.literal 34 i (bytesOf written ++ 34 :: tail) =
      { content := bytesOf content, stop := i + (bytesOf written).length } := by
  induction escaped generalizing i with
  | nil => exact literal_quote
  | raw other unescaped _ ih =>
    rw [bytesOf_cons, List.append_assoc, literal_of_plain (plain_of_ne other unescaped), ih,
      List.length_append, ← Nat.add_assoc]
    rfl
  | @escape c e content written pair _ ih =>
    have split : ∀ cs : List Char, bytesOf ('\\' :: e :: cs) = bytesOf ['\\', e] ++ bytesOf cs :=
      fun cs => bytesOf_append ['\\', e] cs
    have size : (bytesOf ['\\', e]).length = 2 := by
      simp only [escapes, List.mem_cons, List.not_mem_nil, or_false, Prod.mk.injEq] at pair
      rcases pair with ⟨-, rfl⟩ | ⟨-, rfl⟩ | ⟨-, rfl⟩ | ⟨-, rfl⟩ <;> rfl
    rw [split, List.append_assoc, literal_of_escape pair, ih, List.length_append, size,
      ← Nat.add_assoc, bytesOf_cons, bytesOf_cons, bytesOf_nil, List.append_nil]

end Literals

/-! ### Words -/

section Words

variable {bytes run tail : List UInt8} {i : Nat}

theorem takeWhile_of_apart {accept : UInt8 → Bool} (all : ∀ b ∈ run, accept b = true)
    (stop : ∀ b ∈ tail.head?, accept b = false) : (run ++ tail).takeWhile accept = run := by
  rw [List.takeWhile_append_of_pos all]
  cases tail with
  | nil => simp
  | cons b tail => simp [stop b rfl]

/-- A run of letters is one word. -/
theorem step_of_letters (some' : run ≠ []) (letters : ∀ b ∈ run, isLetter b = true)
    (apart : Apart tail) (left : bytes.drop i = run ++ tail) :
    step bytes i =
      { token := some ⟨Token.wordKind (asciiText run), span bytes i (i + run.length), asciiText run⟩
        next := i + run.length } := by
  have whole := takeWhile_of_apart letters fun b mem => (apart b mem).1
  obtain ⟨b, rest, rfl⟩ := List.exists_cons_of_ne_nil some'
  have letter := letters b List.mem_cons_self
  have unmarked : b ∉ marks := by
    intro mem
    have none : ∀ x ∈ marks, isLetter x = false := by simp [marks, isLetter]
    rw [none b mem] at letter
    cases letter
  rw [List.cons_append] at left whole
  rw [step_of_unmarked left unmarked, if_pos letter, word, whole]

/-- A run of digits is one number. -/
theorem step_of_digits (some' : run ≠ []) (digits : ∀ b ∈ run, isDigit b = true)
    (apart : Apart tail) (left : bytes.drop i = run ++ tail) :
    step bytes i =
      { token := some ⟨.number, span bytes i (i + run.length), asciiText run⟩
        next := i + run.length } := by
  have whole := takeWhile_of_apart digits fun b mem => (apart b mem).2
  obtain ⟨b, rest, rfl⟩ := List.exists_cons_of_ne_nil some'
  have digit := digits b List.mem_cons_self
  have unmarked : b ∉ marks := by
    intro mem
    have none : ∀ x ∈ marks, isDigit x = false := by simp [marks, isDigit]
    rw [none b mem] at digit
    cases digit
  rw [List.cons_append] at left whole
  rw [step_of_unmarked left unmarked, isLetter_of_isDigit digit, if_neg Bool.false_ne_true,
    if_pos digit, number, whole]

/-- A closed literal is one string, with a remark if there is nothing in it. -/
theorem step_of_escaped {content written : List Char} (escaped : Escaped content written)
    (left : bytes.drop i = 34 :: (bytesOf written ++ 34 :: tail)) :
    let text := String.ofList content
    step bytes i =
      { token := some ⟨.string, span bytes i (i + ((bytesOf written).length + 2)), text⟩
        found := if text = "" then [.emptyString (place bytes i)] else []
        next := i + ((bytesOf written).length + 2) } := by
  intro text
  have size := length_of_drop left
  have closed : i + 1 + (bytesOf written).length < bytes.length := by
    rw [List.length_append, List.length_cons] at size
    omega
  have next : i + 1 + (bytesOf written).length + 1 = i + ((bytesOf written).length + 2) := by omega
  simp [step, left, string, escaped.literal, closed, contentText_bytesOf, next, text]

end Words

theorem wordKind_eq_identifier {text : String} (free : text ∉ Token.reserved.map Prod.fst) :
    Token.wordKind text = .identifier := by
  have none : Token.reserved.lookup text = none := by
    rw [List.lookup_eq_none_iff]
    intro p mem
    rw [bne_iff_ne]
    rintro rfl
    exact free (List.mem_map_of_mem mem)
  rw [Token.wordKind, none]
  rfl

theorem forall_reserved : ∀ p ∈ Token.reserved,
    Token.wordKind p.1 = p.2 ∧ p.1.toList ≠ [] ∧ ∀ c ∈ p.1.toList, c.isAlpha = true := by
  have table : ∀ p ∈ Token.reserved,
      Token.wordKind p.1 = p.2 ∧ p.1.toList ≠ [] ∧ p.1.toList.all Char.isAlpha = true := by
    decide +kernel
  intro p mem
  obtain ⟨kind, some', alpha⟩ := table p mem
  exact ⟨kind, some', List.all_eq_true.mp alpha⟩

theorem toNat_lt_of_isAlphanum {c : Char} (plain : c.isAlphanum = true) : c.toNat < 128 := by
  rcases Bool.or_eq_true_iff.mp plain with letter | digit
  · rcases Bool.or_eq_true_iff.mp letter with upper | lower
    · have bound : c.toNat ≤ 90 := UInt32.le_iff_toNat_le.mp (of_decide_eq_true upper).2
      omega
    · have bound : c.toNat ≤ 122 :=
        UInt32.le_iff_toNat_le.mp (of_decide_eq_true (Bool.and_eq_true_iff.mp lower).2)
      omega
  · have bound : c.toNat ≤ 57 := (Char.isDigit_iff_toNat.mp digit).2
    omega

/-- The bytes of letters and digits are their codes, and their text is got back. -/
theorem bytes_of_class {isChar : Char → Bool} (isByte : UInt8 → Bool) {cs : List Char}
    (plain : ∀ c, isChar c = true → c.isAlphanum = true)
    (table : ∀ n < 128, isChar (Char.ofNat n) = true → isByte (UInt8.ofNat n) = true)
    (some' : cs ≠ []) (all : ∀ c ∈ cs, isChar c = true) :
    bytesOf cs ≠ [] ∧ (∀ b ∈ bytesOf cs, isByte b = true) ∧
      asciiText (bytesOf cs) = String.ofList cs := by
  have ascii : ∀ c ∈ cs, c.toNat < 128 := fun c mem => toNat_lt_of_isAlphanum (plain c (all c mem))
  refine ⟨?_, ?_, asciiText_bytesOf ascii⟩
  · rw [bytesOf_of_ascii ascii]
    simpa using some'
  · intro b mem
    rw [bytesOf_of_ascii ascii] at mem
    obtain ⟨c, inside, rfl⟩ := List.mem_map.mp mem
    exact forall_ascii (P := fun c b => isChar c = true → isByte b = true) table (ascii c inside)
      (all c inside)

/-- Letters that stand for a word of their own. -/
theorem step_of_word {letters : List Char} {kind : TokenKind} {bytes tail : List UInt8} {i : Nat}
    (some' : letters ≠ []) (alpha : ∀ c ∈ letters, c.isAlpha = true)
    (kept : Token.wordKind (String.ofList letters) = kind) (other : kind ≠ .string)
    (apart : Apart tail) (left : bytes.drop i = bytesOf letters ++ tail) :
    ∃ t : Token, t.word = (kind, String.ofList letters) ∧ step bytes i =
      { token := some t, found := t.remarks, next := i + (bytesOf letters).length } := by
  have plain : ∀ c : Char, c.isAlpha = true → c.isAlphanum = true := by
    intro c h
    simp [Char.isAlphanum, h]
  obtain ⟨bytes', all, text⟩ := bytes_of_class isLetter plain (by decide +kernel) some' alpha
  have read := step_of_letters bytes' all apart left
  rw [text, kept] at read
  let t : Token := ⟨kind, span bytes i (i + (bytesOf letters).length), String.ofList letters⟩
  have quiet : t.remarks = [] := if_neg fun string => other string.1
  refine ⟨t, rfl, ?_⟩
  rw [read, quiet]

/-- A word is found as it was written, whatever follows that does not go on with it. -/
theorem Written.step {word : TokenKind × String} {written : List Char} (h : Written word written)
    {bytes tail : List UInt8} {i : Nat} (apart : Apart tail)
    (left : bytes.drop i = bytesOf written ++ tail) :
    ∃ t : Token, t.word = word ∧ Flat.step bytes i =
      { token := some t, found := t.remarks, next := i + (bytesOf written).length } := by
  cases h with
  | identifier some' alpha free =>
    exact step_of_word some' alpha (wordKind_eq_identifier free) nofun apart left
  | @keyword text kind mem =>
    obtain ⟨kept, some', alpha⟩ := forall_reserved _ mem
    have same : String.ofList text.toList = text := String.ofList_toList
    have other : kind ≠ .string := by
      rintro rfl
      revert mem
      simp [Token.reserved]
    obtain ⟨t, word, read⟩ := step_of_word some' alpha (by rwa [same]) other apart left
    exact ⟨t, by rw [word, same], read⟩
  | number some' digits =>
    have plain : ∀ c : Char, c.isDigit = true → c.isAlphanum = true := by
      intro c h
      simp [Char.isAlphanum, h]
    obtain ⟨bytes', all, text⟩ := bytes_of_class isDigit plain (by decide +kernel) some' digits
    have read := step_of_digits bytes' all apart left
    rw [text] at read
    exact ⟨_, rfl, read⟩
  | @string content written escaped =>
    have quote : String.utf8EncodeChar '"' = [34] := rfl
    have whole : bytes.drop i = 34 :: (bytesOf written ++ 34 :: tail) := by
      rw [left]
      simp [quote]
    have size : (bytesOf ('"' :: (written ++ ['"']))).length = (bytesOf written).length + 2 := by
      simp [quote]
    let t : Token :=
      ⟨.string, span bytes i (i + ((bytesOf written).length + 2)), String.ofList content⟩
    have remarks : t.remarks =
        if String.ofList content = "" then [.emptyString (place bytes i)] else [] := by
      simp [Token.remarks, t, span]
    refine ⟨t, rfl, ?_⟩
    rw [step_of_escaped escaped whole, remarks, size]
  | equals => exact ⟨_, rfl, by simp [Flat.step, left]; rfl⟩
  | plus => exact ⟨_, rfl, by simp [Flat.step, left]; rfl⟩
  | question => exact ⟨_, rfl, by simp [Flat.step, left]; rfl⟩

theorem Written.ne_nil {word : TokenKind × String} {written : List Char}
    (h : Written word written) : written ≠ [] := by
  cases h with
  | identifier some' => exact some'
  | keyword mem => exact (forall_reserved _ mem).2.1
  | number some' => exact some'
  | string => exact List.cons_ne_nil _ _
  | equals => exact List.cons_ne_nil _ _
  | plus => exact List.cons_ne_nil _ _
  | question => exact List.cons_ne_nil _ _

/-! ### Scripts -/

/-- A word is at its end where a gap and the next word follow, or nothing. -/
theorem Rendered.apart {words : List (TokenKind × String)} {gap rest : List Char}
    (later : Rendered words rest) (trivia : Trivia gap) (kept : words ≠ [] → gap ≠ []) :
    Apart (bytesOf gap ++ bytesOf rest) := by
  cases later with
  | nil =>
    by_cases none : gap = []
    · rw [none]
      exact nofun
    · exact trivia.apart none _
  | cons => exact trivia.apart (kept (List.cons_ne_nil _ _)) _

/-- Where words are written out to the end, they are found, and nothing is noted but remarks
about them. -/
theorem scanFrom_of_rendered {words : List (TokenKind × String)} {written : List Char}
    (rendered : Rendered words written) {bytes : List UInt8} {i : Nat}
    (left : bytes.drop i = bytesOf written) :
    ∃ tokens : List Token, tokens.map Token.word = words ∧
      scanFrom bytes i = (tokens, tokens.flatMap Token.remarks) := by
  induction rendered generalizing i with
  | nil => exact ⟨[], rfl, scanFrom_of_le (List.drop_eq_nil_iff.mp left)⟩
  | @cons word words written gap rest here trivia kept later ih =>
    rw [bytesOf_append, bytesOf_append] at left
    obtain ⟨t, word', read⟩ := here.step (later.apart trivia kept) left
    have behind := drop_of_append left
    have passed := trivia.scanFrom behind
    obtain ⟨tokens, words', found⟩ := ih (drop_of_append behind)
    rw [passed] at found
    obtain ⟨b, bs, begun⟩ : ∃ b bs, bytes.drop i = b :: bs := by
      apply List.exists_cons_of_ne_nil
      rw [left]
      obtain ⟨c, cs, rfl⟩ := List.exists_cons_of_ne_nil here.ne_nil
      simp [String.utf8EncodeChar_ne_nil]
    refine ⟨t :: tokens, by rw [List.map_cons, word', words'], ?_⟩
    rw [Lexer.scanFrom_of_drop begun, read, found]
    rfl

theorem record_remarks (tokens : List Token) (d : Diagnostics) :
    (tokens.flatMap Token.remarks).foldl Diagnostics.record d =
      { d with entries := d.entries ++ tokens.flatMap Token.remarks } := by
  have mild : ∀ r ∈ tokens.flatMap Token.remarks, r.fatal = false := by
    intro r mem
    obtain ⟨t, -, mem⟩ := List.mem_flatMap.mp mem
    unfold Token.remarks at mem
    split at mem
    · rw [List.mem_singleton.mp mem]
      rfl
    · cases mem
  generalize tokens.flatMap Token.remarks = remarks at mild
  induction remarks generalizing d with
  | nil => simp
  | cons r remarks ih =>
    have warned : d.record r = d.pushWarning r := by
      rw [Diagnostics.record, mild r List.mem_cons_self, if_neg Bool.false_ne_true]
    rw [List.foldl_cons, ih _ fun r mem => mild r (List.mem_cons_of_mem _ mem), warned]
    simp [Sink.pushWarning]

/-- Words that are written out, in whatever way, are the words of the lexer's tokens. It
records one warning for each string without content, in order and at its place, and an error
only where there are no words. -/
theorem scan_of_rendered {words : List (TokenKind × String)} {lead written : List Char}
    (trivia : Trivia lead) (rendered : Rendered words written) (file : String) :
    ∃ tokens : List Token, tokens.map Token.word = words ∧
      Lexer.scan? (Chunk.ofText (String.ofList (lead ++ written))) file =
        .ok (tokens,
          { file
            entries := tokens.flatMap Token.remarks ++ if words.isEmpty then [.emptyFile] else []
            triggered := words.isEmpty }) := by
  have whole : (bytesOf (lead ++ written)).drop 0 = bytesOf lead ++ bytesOf written :=
    bytesOf_append lead written
  obtain ⟨tokens, same, found⟩ := scanFrom_of_rendered rendered (drop_of_append whole)
  rw [trivia.scanFrom whole] at found
  refine ⟨tokens, same, ?_⟩
  obtain ⟨s, eq, calm, notes⟩ := Lexer.scan_ofBytes (bytesOf (lead ++ written)) file
  have none : tokens.isEmpty = words.isEmpty := by
    rw [← same, List.isEmpty_map]
  unfold Lexer.scan? Chunk.ofText
  rw [textBytes_ofList, eq]
  simp only [calm, notes, Flat.scan, found, none, List.foldl_append, record_remarks]
  cases words.isEmpty <;> simp [Diagnostics.record, Sink.push, Diagnostic.fatal]

/-- A comment holds a word and a quote; a string holds a newline as it is, a number sign and
an escaped quote. The second string is empty. -/
theorem scan_of_rendered_mixed :
    let lead := "# get \"\n".toList
    let written := "print \"é\n#\\\"\"\t+;\"\"".toList
    let words : List (TokenKind × String) :=
      [(.print, "print"), (.string, "é\n#\""), (.plus, "+"), (.string, "")]
    (Trivia lead ∧ Rendered words written) ∧ ∃ tokens : List Token, tokens.map Token.word = words ∧
      Lexer.scan? (Chunk.ofText (String.ofList (lead ++ written))) "s" =
        .ok (tokens, { file := "s", entries := tokens.flatMap Token.remarks }) := by
  intro lead written words
  have trivia : Trivia lead :=
    show Trivia ('#' :: (" get \"".toList ++ '\n' :: [])) from .comment (by decide) .nil
  have gap (c : Char) (filler : isFiller c = true) : Trivia [c] := .filler filler .nil
  have content : Escaped "é\n#\"".toList "é\n#\\\"".toList :=
    .raw (by decide) (by decide) (.raw (by decide) (by decide) (.raw (by decide) (by decide)
      (.escape (by decide) .nil)))
  have print : Written (.print, "print") "print".toList := .keyword (by decide)
  have quoted : Written (.string, "é\n#\"") "\"é\n#\\\"\"".toList := .string content
  have empty : Written (.string, "") "\"\"".toList := .string .nil
  have rendered : Rendered words written :=
    .cons print (gap ' ' (by decide)) (fun _ => by decide)
      (.cons quoted (gap '\t' (by decide)) (fun _ => by decide)
        (.cons .plus (gap ';' (by decide)) (fun _ => by decide)
          (.cons empty .nil (absurd rfl) .nil)))
  obtain ⟨tokens, same, scanned⟩ := scan_of_rendered trivia rendered "s"
  exact ⟨⟨trivia, rendered⟩, tokens, same, by rw [scanned]; simp [words]⟩

end RouteScript
