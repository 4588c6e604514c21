import Phrasebook.Proofs.Translation.Failure

/-!
# Where reports point

The report of a failure quotes a fragment of the normalized instruction, and its span is that
fragment. Offsets count units, so that blanks and characters of two units in front of the fragment
are counted as they are.

Results:
* `span_fault`, `span_invalidVariable`: the spans by the offset of the fragment.
* `dictionary_split`: what stands around the fragment of a dictionary.
* `span_of_translate_eq_error`: the span of every failure, and what stands in front of it.
-/

namespace Phrasebook

open Phrasebook.Text

/-- The span between two offsets of the first line. -/
def spanOf (i j : Nat) : Span := ⟨⟨1, i + 1⟩, ⟨1, j + 1⟩⟩

theorem span_about {code message : String} (h : Diagnostic.Worded code message)
    (fragment : List Char) (i : Nat) :
    (Diagnostic.about code message (String.ofList fragment) i h).span =
      spanOf i (i + units fragment) := by
  have hspan : (Diagnostic.about code message (String.ofList fragment) i h).span =
      .columns i (i + units (String.ofList fragment).toList) := rfl
  rw [hspan, String.toList_ofList, spanOf, Span.columns]
  push_cast
  rfl

theorem span_fault (offset : Nat) (piece : List Char) : (Pair.fault offset piece).span =
    spanOf (offset + units (piece.takeWhile isBlank))
      (offset + units (piece.takeWhile isBlank) + units (trim piece)) := by
  rw [← contentStart_eq, Pair.fault]
  split
  · exact span_about _ _ _
  · exact span_about _ _ _

theorem span_invalidVariable (v : List Char) (offset : Nat) :
    (Diagnostic.invalidVariable (String.ofList v) offset).span =
      spanOf offset (offset + units v) :=
  span_about _ _ _

/-- A part of a text is the slice between its offsets, and they lie in the text. -/
theorem slice_of_split {n front w back : List Char} (h : n = front ++ (w ++ back)) :
    slice n (units front) (units front + units w) = w ∧ units front + units w ≤ units n := by
  rw [h]
  refine ⟨slice_append front w back, ?_⟩
  simp only [units_append]
  omega

/-- The fragment of a dictionary in the instruction: the words of the rule, the pieces in front of
the faulty one with their commas, its blanks, and what trimming leaves of it. -/
theorem dictionary_split {n body piece : List Char} {before : List (List Char)}
    (h : AsksDictionary n body) (hfirst : FirstFaulty body before piece) :
    ∃ rest, n = "create dictionary ".toList ++ (before.flatMap (· ++ [',']) ++
      piece.takeWhile isBlank ++ (trim piece ++ rest)) := by
  obtain ⟨rest, hbody⟩ := firstFaulty_split hfirst
  refine ⟨rest, ?_⟩
  rw [h.1, hbody]
  simp only [List.append_assoc]

/-- The span of a failure is that of the fragment which its message quotes. In a dictionary the
fragment is what trimming leaves of the first faulty piece, and in front of it stand the pieces
before with their commas, and blanks; of a blank piece it is the empty text at the end. In a
comparison it is the whole left side. -/
theorem span_of_translate_eq_error {s : String} {e : TranslationError}
    (h : standardRules.translate s = .error e) :
    ∃ id d fragment i j, e = .synthesis id d ∧ Quotes d fragment ∧ d.span = spanOf i j ∧
      i ≤ j ∧ j ≤ units (normalize s).toList ∧ j = i + units fragment ∧
      slice (normalize s).toList i j = fragment ∧
      (((d.code = "N001" ∨ d.code = "N002") ∧ ∃ body before piece blanks,
          AsksDictionary (normalize s).toList body ∧ FirstFaulty body before piece ∧
          fragment = trim piece ∧ (∀ c ∈ blanks, isBlank c = true) ∧ 18 ≤ i ∧
          slice (normalize s).toList 18 i = before.flatMap (· ++ [',']) ++ blanks ∧
          ((∀ c ∈ piece, isBlank c = true) → i = j ∧ blanks = piece)) ∨
        (d.code = "N003" ∧ ∃ operand number message,
          AsksComparison (normalize s).toList operand number message ∧ fragment = operand ∧
          i = 3 ∧ j = 3 + units operand)) := by
  rcases eq_of_translate_eq_error h with ⟨body, before, piece, hasks, hfirst, rfl⟩ |
    ⟨operand, number, message, hasks, -, rfl⟩
  · let front := before.flatMap (· ++ [',']) ++ piece.takeWhile isBlank
    obtain ⟨rest, hn⟩ := dictionary_split hasks hfirst
    have hwords : units "create dictionary ".toList = 18 := by decide
    have hfront : units ("create dictionary ".toList ++ front) =
        18 + units (before.flatMap (· ++ [','])) + units (piece.takeWhile isBlank) := by
      rw [units_append, units_append, hwords]
      omega
    obtain ⟨hfragment, hle⟩ := slice_of_split
      (n := (normalize s).toList) (show _ = "create dictionary ".toList ++ front ++
        (trim piece ++ rest) by rw [List.append_assoc]; exact hn)
    rw [hfront] at hfragment hle
    refine ⟨_, _, trim piece, _, _, rfl, quotes_fault _ piece, span_fault _ piece, by omega, hle,
      rfl, hfragment, .inl ⟨?_, body, before, piece, piece.takeWhile isBlank, hasks, hfirst, rfl,
        fun c hc => List.mem_takeWhile_imp hc, by omega, ?_, ?_⟩⟩
    · rw [code_fault]
      split
      · exact .inr rfl
      · exact .inl rfl
    · obtain ⟨hslice, -⟩ := slice_of_split hn
      rwa [hwords, units_append, ← Nat.add_assoc] at hslice
    · intro hblank
      have htrim : trim piece = [] := trim_eq_nil_iff.2 (List.all_eq_true.2 hblank)
      rw [htrim]
      exact ⟨rfl, List.takeWhile_eq_self_iff.2 hblank⟩
  · obtain ⟨hfragment, hle⟩ := slice_of_split hasks.1
    exact ⟨_, _, operand, 3, 3 + units operand, rfl, quotes_invalidVariable operand 3,
      span_invalidVariable operand 3, by omega, hle, rfl, hfragment,
      .inr ⟨rfl, operand, number, message, hasks, rfl, rfl, rfl⟩⟩

/-- A character of two units in front of the fragment counts twice. -/
theorem span_behind_two_units :
    standardRules.translate "Create dictionary 😀:1,  x" =
      .error (.synthesis "create-dictionary" (.malformedPair "x" 25)) ∧
    ∃ fragment i j, Quotes (.malformedPair "x" 25) fragment ∧
      (Diagnostic.malformedPair "x" 25).span = spanOf i j ∧
      slice (normalize "Create dictionary 😀:1,  x").toList i j = fragment := by
  have h : standardRules.translate "Create dictionary 😀:1,  x" =
      .error (.synthesis "create-dictionary" (.malformedPair "x" 25)) := by
    rw [standardRules_eq_map]
    decide +kernel
  obtain ⟨id, d, fragment, i, j, he, hquotes, hspan, -, -, -, hslice, -⟩ :=
    span_of_translate_eq_error h
  cases he
  exact ⟨h, fragment, i, j, hquotes, hspan, hslice⟩

end Phrasebook
