import RouteScript.Proofs.Compiled.Execution
import RouteScript.Proofs.Compiled.Correctness
import RouteScript.Proofs.Compiled.Independence
import RouteScript.Proofs.Parser.Wording

/-!
Scripts that are split in two.

Two texts that compile without an error also do so when the second follows on the lines
behind the first, and then the program is that of the first followed by that of the
second (`compileText_join`): neither the lexer nor the parser is left in the middle of
anything. A host that does not block runs the whole as it runs the first and then the
second (`runText_join`), since what the first leaves on the machine does not matter to
the second.

A text is taken by its `wording`, which says all that matters to its program
(`compileText_clean_iff`).
-/

namespace RouteScript

open Script RouteScript.Parser Flat

/-! ### The text of a script -/

theorem Chunk.textBytes_append (a b : String) :
    Chunk.textBytes (a ++ b) = Chunk.textBytes a ++ Chunk.textBytes b := by
  simp only [textBytes, String.toUTF8, String.toByteArray_append, ByteArray.data_append,
    Array.toList_append]

/-- The bytes of two texts on lines of their own. -/
theorem Chunk.textBytes_join (a b : String) :
    Chunk.textBytes (a ++ "\n" ++ b) = Chunk.textBytes a ++ 10 :: Chunk.textBytes b := by
  have newline : Chunk.textBytes "\n" = [10] := rfl
  rw [textBytes_append, textBytes_append, newline, List.append_assoc, List.singleton_append]

theorem triggered_foldl_record (found : List Diagnostic) (d : Diagnostics) :
    (found.foldl Diagnostics.record d).triggered = (d.triggered || found.any Diagnostic.fatal) := by
  induction found generalizing d with
  | nil => simp
  | cons e rest ih =>
    rw [List.foldl_cons, ih, List.any_cons, ← Bool.or_assoc]
    cases fatal : e.fatal <;> simp [Diagnostics.record, Sink.push, Sink.pushWarning, fatal]

/-- The tokens of a text. -/
def tokensOf (text : String) : List Token := (scanFrom (Chunk.textBytes text) 0).1

/-- The wording of a text. -/
def wordingOf (text : String) : Wording := wording (scanFrom (Chunk.textBytes text) 0)

/-- The parser gets the tokens of the text, and what was recorded before has an error if
the wording has one or there are no tokens. -/
theorem compileText_eq (text file : String) :
    ∃ lexed : Diagnostics, compileText text file = compileTokens (tokensOf text) lexed ∧
      lexed.triggered = ((wordingOf text).broken || (tokensOf text).isEmpty) := by
  obtain ⟨s, eq, -, notes⟩ := Lexer.scan_ofBytes (Chunk.textBytes text) file
  refine ⟨s.diagnostics, ?_, ?_⟩
  · unfold compileText compileChunks Chunk.ofText
    rw [eq]
    rfl
  · rw [notes, triggered_foldl_record, Bool.false_or]
    simp only [Flat.scan, List.any_append]
    change (_ || List.any (if (tokensOf text).isEmpty then _ else _) _) = _
    cases (tokensOf text).isEmpty <;> rfl

/-- A text compiles without an error exactly if its wording has none and it is a script of
at least one statement. -/
theorem compileText_clean_iff {text file : String} :
    (compileText text file).diagnostics.triggered = false ↔
      (wordingOf text).broken = false ∧ tokensOf text ≠ [] ∧ ∃ script, Covers script (tokensOf text) := by
  obtain ⟨lexed, compiled, triggered⟩ := compileText_eq text file
  rw [compiled]
  constructor
  · intro clean
    obtain ⟨blocks, found, -, diagnostics, -, script⟩ := compileTokens_blocks (tokensOf text) lexed
    rw [diagnostics, triggered_foldl_push, triggered] at clean
    simp only [Bool.or_eq_false_iff, List.isEmpty_eq_false_iff, Bool.not_eq_false',
      List.isEmpty_iff] at clean
    exact ⟨clean.1.1, clean.1.2, script clean.2⟩
  · rintro ⟨calm, some', script, covers⟩
    rw [compileTokens_of_covers covers, triggered, calm]
    simpa using some'

theorem compileText_program {text : String} {script : List Sentence}
    (covers : Covers script (tokensOf text)) (file : String) :
    (compileText text file).program = (script.map (·.statement)).flatMap Statement.code := by
  obtain ⟨lexed, compiled, -⟩ := compileText_eq text file
  rw [compiled, compileTokens_of_covers covers]

/-- Texts without errors compile together as they do alone, the first one first. -/
theorem compileText_join {a b fileA fileB : String}
    (cleanA : (compileText a fileA).diagnostics.triggered = false)
    (cleanB : (compileText b fileB).diagnostics.triggered = false) (file : String) :
    (compileText (a ++ "\n" ++ b) file).diagnostics.triggered = false ∧
      (compileText (a ++ "\n" ++ b) file).program =
        (compileText a fileA).program ++ (compileText b fileB).program := by
  obtain ⟨calmA, someA, scriptA, coversA⟩ := compileText_clean_iff.mp cleanA
  obtain ⟨calmB, someB, scriptB, coversB⟩ := compileText_clean_iff.mp cleanB
  have joined : wordingOf (a ++ "\n" ++ b) = wordingOf a ++ wordingOf b := by
    unfold wordingOf
    rw [Chunk.textBytes_join]
    exact wording_join calmA _
  have words : (tokensOf (a ++ "\n" ++ b)).map Token.word = (tokensOf a ++ tokensOf b).map Token.word := by
    have both := congrArg Wording.words joined
    rw [Wording.words_append] at both
    rw [List.map_append]
    exact both
  obtain ⟨script, covers, statements⟩ := (coversA.append coversB).of_words words
  constructor
  · refine compileText_clean_iff.mpr ⟨?_, ?_, script, covers⟩
    · rw [joined, Wording.broken_append, calmA, calmB]
      rfl
    · intro none
      rw [none] at words
      simp [someA] at words
  · rw [compileText_program covers, compileText_program coversA, compileText_program coversB,
      statements, List.map_append, List.flatMap_append]

/-! ### Runs -/

open Machine

namespace Host

variable {σ : Type}

/-- What a host that does not block makes of a program without errors. -/
theorem execute_of_clean (h : Host σ Empty) (counts : h.counts = true)
    (free : h.modes.blocking = false) {c : Compiled} (clean : c.diagnostics.triggered = false)
    (s : σ) :
    let done := play h.service c.program (h.machine, s)
    h.execute c s = (.ok (.ofMachine .success c.diagnostics false done.1), done.2) := by
  intro done
  obtain ⟨ending, final, -⟩ := run_of_not_blocking h.service c.program s (m := h.machine) free
  change (_, _) = done at final
  rw [execute_ran counts clean, ← final]
  simp only [Report.ofRun, ending]

/-- A host that does not block runs two texts without errors as one as it runs them one
after the other. All three runs go through, and the one has the requests of the other two,
the effects of the first and then those of the second, and the counts of both. -/
theorem runText_join {a b fileA fileB : String}
    (cleanA : (compileText a fileA).diagnostics.triggered = false)
    (cleanB : (compileText b fileB).diagnostics.triggered = false) (file : String)
    (server : Server σ) {modes : Modes} (free : modes.blocking = false) (s : σ) :
    let whole := compileText (a ++ "\n" ++ b) file
    let h : Host (σ × List Call) Empty := { modes, service := server.noting.service }
    (whole.diagnostics.triggered = false ∧
      whole.program = (compileText a fileA).program ++ (compileText b fileB).program) ∧
    ∃ rA behindA rB behindB r,
      h.runText a fileA (s, []) = (.ok rA, behindA) ∧
      h.runText b fileB behindA = (.ok rB, behindB) ∧
      h.runText (a ++ "\n" ++ b) file (s, []) = (.ok r, behindB) ∧
      (rA.status = .success ∧ rB.status = .success ∧ r.status = .success) ∧
      r.effects = rA.effects ++ rB.effects ∧ r.ok = rA.ok + rB.ok ∧ r.err = rA.err + rB.err := by
  intro whole h
  obtain ⟨clean, program⟩ := compileText_join cleanA cleanB file
  obtain ⟨lexed, compiled, -⟩ := compileText_eq b fileB
  obtain ⟨g, supports⟩ := compileTokens_supports (tokensOf b) lexed
  rw [← compiled] at supports
  let before := play h.service (compileText a fileA).program (h.machine, (s, []))
  have ran := execute_of_clean h rfl free clean (s, [])
  have ranA := execute_of_clean h rfl free cleanA (s, [])
  have ranB := execute_of_clean h rfl free cleanB before.2
  have fresh : h.machine.fresh = h.machine := rfl
  obtain ⟨above, same⟩ := play_append_overlays h.service supports (compileText a fileA).program
    h.machine (s, [])
  rw [← program, fresh] at above same
  simp only [same] at ran
  exact ⟨⟨clean, program⟩, _, _, _, _, _, ranA, ranB, ran, ⟨rfl, rfl, rfl⟩, above.effects, above.ok,
    above.err⟩

/-- The second text gives a value of its own to a name of the first, behind a comment that
the newline ends. -/
theorem runText_join_comment :
    let a := "get \"/a\" = x print x # shown"
    let b := "x = \"b\" print x"
    let server : Server Unit := fun _ _ _ s => (some ⟨200, "hi"⟩, s)
    let h : Host (Unit × List Call) Empty := { modes := {}, service := server.noting.service }
    ((compileText a "a").diagnostics.triggered = false ∧
      (compileText b "b").diagnostics.triggered = false ∧ ({} : Modes).blocking = false) ∧
    ∃ r, h.runText (a ++ "\n" ++ b) "ab" ((), []) = (.ok r, ((), [⟨.get, "/a", none⟩])) ∧
      r.status = .success ∧ r.effects = [⟨"stdout", "hi"⟩, ⟨"stdout", "b"⟩] ∧ r.ok = 1 ∧ r.err = 0 := by
  intro a b server h
  have cleanA : (compileText a "a").diagnostics.triggered = false := by decide +kernel
  have cleanB : (compileText b "b").diagnostics.triggered = false := by decide +kernel
  let told (r : Report) : List Effect × Nat × Nat := (r.effects, r.ok, r.err)
  let left : Unit × List Call := ((), [⟨.get, "/a", none⟩])
  have first : (h.runText a "a" ((), [])).1.toOption.map told = some ([⟨"stdout", "hi"⟩], 1, 0) ∧
      (h.runText a "a" ((), [])).2 = left := by decide +kernel
  have second : (h.runText b "b" left).1.toOption.map told = some ([⟨"stdout", "b"⟩], 0, 0) ∧
      (h.runText b "b" left).2 = left := by decide +kernel
  have free : ({} : Modes).blocking = false := rfl
  obtain ⟨-, rA, behindA, rB, behindB, r, ranA, ranB, ran, ⟨-, -, status⟩, effects, ok, err⟩ :=
    runText_join cleanA cleanB "ab" server free ()
  rw [ranA] at first
  obtain ⟨toldA, rfl⟩ := first
  rw [ranB] at second
  obtain ⟨toldB, rfl⟩ := second
  simp only [Except.toOption, Option.map_some, Option.some.injEq, told, Prod.mk.injEq] at toldA toldB
  rw [toldA.1, toldB.1] at effects
  rw [toldA.2.1, toldB.2.1] at ok
  rw [toldA.2.2, toldB.2.2] at err
  exact ⟨⟨cleanA, cleanB, free⟩, r, ran, status, effects, ok, err⟩

end Host

end RouteScript
