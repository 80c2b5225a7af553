import RouteScript.Lexer.Readers

/-!
The bytes of characters.

A character below 128 is one byte, its code; of any other character all bytes are 128 or
more (`forall_utf8EncodeChar`). The lexer gives the text of bytes back in both of its ways: of a
string literal's content (`contentText_bytesOf`) and of a run of letters or digits
(`asciiText_bytesOf`).

Bytes that are those of some characters (`IsText`) can be cut at any byte below 128
(`IsText.split`), and they can be decoded (`IsText.fromUTF8?_eq`).
-/

namespace RouteScript

/-- The bytes of some characters, one after the other. -/
def bytesOf (cs : List Char) : List UInt8 := cs.flatMap String.utf8EncodeChar

section Bytes

variable {c : Char} {cs : List Char}

@[simp] theorem bytesOf_nil : bytesOf [] = [] := rfl

@[simp] theorem bytesOf_cons (c : Char) (cs : List Char) :
    bytesOf (c :: cs) = String.utf8EncodeChar c ++ bytesOf cs := rfl

@[simp] theorem bytesOf_append (cs ds : List Char) :
    bytesOf (cs ++ ds) = bytesOf cs ++ bytesOf ds := List.flatMap_append

theorem utf8EncodeChar_of_ascii (ascii : c.toNat < 128) :
    String.utf8EncodeChar c = [UInt8.ofNat c.toNat] := by
  have low : c.val.toNat ≤ 0x7f := Nat.le_of_lt_succ ascii
  unfold String.utf8EncodeChar
  exact if_pos low

theorem le_of_mem_utf8EncodeChar (wide : 128 ≤ c.toNat) {b : UInt8}
    (mem : b ∈ String.utf8EncodeChar c) : 128 ≤ b := by
  have high : ¬c.val.toNat ≤ 0x7f := Nat.not_le_of_gt wide
  unfold String.utf8EncodeChar at mem
  rw [if_neg high] at mem
  rw [UInt8.le_iff_toNat_le]
  split at mem
  · simp only [List.mem_cons, List.not_mem_nil, or_false] at mem
    rcases mem with rfl | rfl <;> simp [UInt8.toNat_ofNat'] <;> omega
  · split at mem
    · simp only [List.mem_cons, List.not_mem_nil, or_false] at mem
      rcases mem with rfl | rfl | rfl <;> simp [UInt8.toNat_ofNat'] <;> omega
    · simp only [List.mem_cons, List.not_mem_nil, or_false] at mem
      rcases mem with rfl | rfl | rfl | rfl <;> simp [UInt8.toNat_ofNat'] <;> omega

/-- What holds of all bytes from 128 on, and of the code of a character below, holds of all
bytes of a character. -/
theorem forall_utf8EncodeChar {P : UInt8 → Prop} (high : ∀ b : UInt8, 128 ≤ b → P b)
    (low : c.toNat < 128 → P (UInt8.ofNat c.toNat)) : ∀ b ∈ String.utf8EncodeChar c, P b := by
  intro b mem
  by_cases ascii : c.toNat < 128
  · rw [utf8EncodeChar_of_ascii ascii, List.mem_singleton] at mem
    rw [mem]
    exact low ascii
  · exact high b (le_of_mem_utf8EncodeChar (Nat.le_of_not_lt ascii) mem)

theorem bytesOf_of_ascii (ascii : ∀ c ∈ cs, c.toNat < 128) :
    bytesOf cs = cs.map fun c => UInt8.ofNat c.toNat := by
  induction cs with
  | nil => rfl
  | cons c cs ih =>
    rw [bytesOf_cons, utf8EncodeChar_of_ascii (ascii c List.mem_cons_self),
      ih fun d mem => ascii d (List.mem_cons_of_mem c mem)]
    rfl

end Bytes

/-! ### Text and back -/

theorem textBytes_ofList (cs : List Char) : Chunk.textBytes (String.ofList cs) = bytesOf cs := by
  simp [Chunk.textBytes, bytesOf, String.toUTF8, List.utf8Encode]

theorem toByteArray_ofList (cs : List Char) :
    (⟨(bytesOf cs).toArray⟩ : ByteArray) = (String.ofList cs).toByteArray := by
  apply ByteArray.ext
  rw [← textBytes_ofList]
  simp [Chunk.textBytes, String.toUTF8]

/-- Content that was text is that text again. -/
theorem contentText_bytesOf (cs : List Char) :
    Lexer.contentText (bytesOf cs) = String.ofList cs := by
  rw [Lexer.contentText, toByteArray_ofList, String.fromUTF8?,
    dif_pos (String.ofList cs).isValidUTF8]
  rfl

theorem asciiText_bytesOf {cs : List Char} (ascii : ∀ c ∈ cs, c.toNat < 128) :
    asciiText (bytesOf cs) = String.ofList cs := by
  have codes : ∀ c ∈ cs, Char.ofNat (UInt8.ofNat c.toNat).toNat = c := by
    intro c mem
    have small := ascii c mem
    rw [UInt8.toNat_ofNat', Nat.mod_eq_of_lt (by omega), Char.ofNat_toNat]
  rw [asciiText, bytesOf_of_ascii ascii, List.map_map]
  exact congrArg String.ofList ((List.map_congr_left codes).trans (List.map_id cs))

/-! ### Bytes of text -/

/-- These are the bytes of some characters. -/
def IsText (bytes : List UInt8) : Prop := ∃ cs, bytes = bytesOf cs

namespace IsText

variable {xs ys bytes : List UInt8} {b : UInt8}

theorem nil : IsText [] := ⟨[], rfl⟩

theorem append (front : IsText xs) (back : IsText ys) : IsText (xs ++ ys) := by
  obtain ⟨cs, rfl⟩ := front
  obtain ⟨ds, rfl⟩ := back
  exact ⟨cs ++ ds, (bytesOf_append cs ds).symm⟩

/-- A byte below 128 is a character of its own. -/
theorem ascii (small : b < 128) : IsText [b] := by
  have bound : b.toNat < 128 := UInt8.lt_iff_toNat_lt.mp small
  have valid : b.toNat.isValidChar := .inl (by omega)
  have code : (Char.ofNat b.toNat).toNat = b.toNat := by
    delta Char.ofNat
    rw [dif_pos valid]
    rfl
  refine ⟨[Char.ofNat b.toNat], ?_⟩
  rw [bytesOf_cons, utf8EncodeChar_of_ascii (by rwa [code]), code]
  simp

theorem textBytes (text : String) : IsText (Chunk.textBytes text) :=
  ⟨text.toList, by rw [← textBytes_ofList, String.ofList_toList]⟩

/-- A character that has a byte below 128 has no other. -/
theorem alone {c : Char} (small : b < 128) (char : String.utf8EncodeChar c = xs ++ b :: ys) :
    xs = [] ∧ ys = [] := by
  have low : c.toNat < 128 := by
    apply Decidable.byContradiction
    intro wide
    have mem : b ∈ String.utf8EncodeChar c := by simp [char]
    have high := UInt8.le_iff_toNat_le.mp (le_of_mem_utf8EncodeChar (Nat.le_of_not_lt wide) mem)
    exact absurd (UInt8.lt_iff_toNat_lt.mp small) (Nat.not_lt_of_le high)
  rw [utf8EncodeChar_of_ascii low] at char
  rcases List.append_eq_singleton_iff.mp char.symm with ⟨front, back⟩ | ⟨-, back⟩
  · exact ⟨front, (List.cons.inj back).2⟩
  · cases back

/-- Text may be cut at a byte below 128. -/
theorem split (text : IsText (xs ++ b :: ys)) (small : b < 128) : IsText xs ∧ IsText ys := by
  obtain ⟨cs, eq⟩ := text
  induction cs generalizing xs with
  | nil => simp at eq
  | cons c cs ih =>
    rw [bytesOf_cons] at eq
    rcases List.append_eq_append_iff.mp eq with ⟨inside, char, back⟩ | ⟨between, front, tail⟩
    · cases inside with
      | nil =>
        rw [List.append_nil] at char
        have behind : [] ++ b :: ys = bytesOf cs := back
        exact ⟨⟨[c], by simp [char]⟩, (ih behind).2⟩
      | cons b' inside =>
        obtain ⟨rfl, rfl⟩ := List.cons.inj back
        obtain ⟨rfl, rfl⟩ := alone small char
        exact ⟨nil, ⟨cs, rfl⟩⟩
    · obtain ⟨⟨ds, rfl⟩, back⟩ := ih tail.symm
      exact ⟨⟨c :: ds, front⟩, back⟩

theorem isValidUTF8 (text : IsText bytes) : (⟨bytes.toArray⟩ : ByteArray).IsValidUTF8 := by
  obtain ⟨cs, rfl⟩ := text
  rw [toByteArray_ofList]
  exact (String.ofList cs).isValidUTF8

theorem fromUTF8?_eq (text : IsText bytes) :
    String.fromUTF8? ⟨bytes.toArray⟩ = some (Lexer.contentText bytes) := by
  have valid := text.isValidUTF8
  simp [Lexer.contentText, String.fromUTF8?, valid]

/-- Only text without bytes is empty. -/
theorem contentText_eq_empty (text : IsText bytes) : Lexer.contentText bytes = "" ↔ bytes = [] := by
  obtain ⟨cs, rfl⟩ := text
  rw [contentText_bytesOf, String.ofList_eq_empty_iff]
  cases cs with
  | nil => simp
  | cons c cs => simp [String.utf8EncodeChar_ne_nil]

end IsText

end RouteScript
