import Phrasebook.Literal.Collection
import Phrasebook.Proofs.Text.Trim

/-!
# Dictionaries that cannot be read

A piece of a dictionary is faulty if it does not have exactly one colon or if its key is blank. The
first faulty piece is reported, with what trimming leaves of it and the place where that stands.

Results:
* `ofPiece?_of_isFaulty`, `exists_ofPiece?_eq_ok`: a piece can be read iff it is not faulty.
* `dictionaryPairs_of_firstFaulty`, `exists_dictionaryPairs_eq_ok`: a dictionary can be read iff no
  piece is faulty, and the report is about the first faulty one.
* `firstFaulty_split`: what stands in front of the first faulty piece.
-/

namespace Phrasebook

open Phrasebook.Text

/-! ## Pieces -/

/-- The piece does not have exactly one colon, or nothing but blanks in front of it. -/
def IsFaulty (piece : List Char) : Prop :=
  piece.count ':' ≠ 1 ∨ trim (piece.takeWhile (· ≠ ':')) = []

instance (piece : List Char) : Decidable (IsFaulty piece) := inferInstanceAs (Decidable (_ ∨ _))

namespace Pair

/-- The report of a faulty piece that stands at an offset. -/
def fault (offset : Nat) (piece : List Char) : Diagnostic :=
  if piece.count ':' = 1 then .emptyKey (String.ofList (trim piece)) (contentStart offset piece)
  else .malformedPair (String.ofList (trim piece)) (contentStart offset piece)

/-- What the reader of a piece does, by its number of colons and its key. -/
theorem ofPiece?_eq (offset : Nat) (piece : List Char) :
    (IsFaulty piece ∧ ofPiece? offset piece = .error (fault offset piece)) ∨
      (¬ IsFaulty piece ∧ ∃ e, ofPiece? offset piece = .ok e) := by
  have hlength := length_splitAt ':' piece
  rw [ofPiece?]
  split
  · next key value hsplit =>
    rw [hsplit] at hlength
    have hcount : piece.count ':' = 1 := by
      have : 2 = piece.count ':' + 1 := hlength
      omega
    obtain ⟨rfl, -⟩ := splitAt_eq_pair hsplit
    rw [IsFaulty, trim_eq_nil_iff]
    split
    · next hblank =>
      refine .inl ⟨.inr hblank, ?_⟩
      rw [fault, if_pos hcount]
    · next hblank => exact .inr ⟨not_or.2 ⟨fun h => h hcount, hblank⟩, _, rfl⟩
  · next hno =>
    have hcount : piece.count ':' ≠ 1 := by
      intro hcount
      rw [hcount] at hlength
      obtain ⟨key, value, hsplit⟩ := List.length_eq_two.1 hlength
      exact hno key value hsplit
    refine .inl ⟨.inl hcount, ?_⟩
    rw [fault, if_neg hcount]

theorem ofPiece?_of_isFaulty {offset : Nat} {piece : List Char} (h : IsFaulty piece) :
    ofPiece? offset piece = .error (fault offset piece) := by
  rcases ofPiece?_eq offset piece with ⟨-, herror⟩ | ⟨hno, -⟩
  · exact herror
  · exact absurd h hno

theorem exists_ofPiece?_eq_ok (offset : Nat) {piece : List Char} (h : ¬ IsFaulty piece) :
    ∃ e, ofPiece? offset piece = .ok e := by
  rcases ofPiece?_eq offset piece with ⟨hfaulty, -⟩ | ⟨-, hok⟩
  · exact absurd hfaulty h
  · exact hok

/-! ## Rows of pieces -/

/-- Pieces that are not faulty are read, and what follows them stands behind them and their
commas. -/
theorem ofPieces?_append {before : List (List Char)} (h : ∀ p ∈ before, ¬ IsFaulty p) :
    ∀ offset rest, ∃ es, ofPieces? offset (before ++ rest) =
      (ofPieces? (offset + units (before.flatMap (· ++ [',']))) rest).map (es ++ ·) := by
  induction before with
  | nil =>
    intro offset rest
    refine ⟨[], ?_⟩
    cases hrest : ofPieces? offset rest <;> simp [hrest, Except.map]
  | cons p ps ih =>
    intro offset rest
    obtain ⟨e, he⟩ := exists_ofPiece?_eq_ok offset (h p (by simp))
    obtain ⟨es, hes⟩ := ih (fun q hq => h q (by simp [hq])) (offset + units p + 1) rest
    have hoffset : offset + units ((p :: ps).flatMap (· ++ [','])) =
        offset + units p + 1 + units (ps.flatMap (· ++ [','])) := by
      simp only [List.flatMap_cons, units_append, units_cons, units_nil]
      have : unitsOf ',' = 1 := rfl
      omega
    refine ⟨e :: es, ?_⟩
    rw [List.cons_append, ofPieces?, he, hes, hoffset]
    cases ofPieces? (offset + units p + 1 + units (ps.flatMap (· ++ [',']))) rest <;> rfl

end Pair

/-! ## Dictionaries -/

/-- The first faulty piece of the text of a dictionary, and the pieces in front of it. -/
def FirstFaulty (s : List Char) (before : List (List Char)) (piece : List Char) : Prop :=
  ∃ after, splitAt ',' s = before ++ piece :: after ∧ (∀ p ∈ before, ¬ IsFaulty p) ∧ IsFaulty piece

theorem exists_firstFaulty_iff (s : List Char) :
    (∃ before piece, FirstFaulty s before piece) ↔ ∃ piece ∈ splitAt ',' s, IsFaulty piece := by
  constructor
  · rintro ⟨before, piece, after, hsplit, -, hfaulty⟩
    exact ⟨piece, by rw [hsplit]; simp, hfaulty⟩
  · rintro ⟨piece, hmem, hfaulty⟩
    have hfind : ((splitAt ',' s).find? (IsFaulty ·)).isSome :=
      List.find?_isSome.2 ⟨piece, hmem, by simpa using hfaulty⟩
    obtain ⟨first, hfirst⟩ := Option.isSome_iff_exists.1 hfind
    obtain ⟨hp, before, after, hsplit, hbefore⟩ := List.find?_eq_some_iff_append.1 hfirst
    exact ⟨before, first, after, hsplit, fun p hp => by simpa using hbefore p hp, by simpa using hp⟩

/-- The report of a dictionary is about its first faulty piece. -/
theorem dictionaryPairs_of_firstFaulty {s : String} {start : Nat} {before : List (List Char)}
    {piece : List Char} (h : FirstFaulty s.toList before piece) : dictionaryPairs s start =
      .error (Pair.fault (start + units (before.flatMap (· ++ [',']))) piece) := by
  obtain ⟨after, hsplit, hbefore, hfaulty⟩ := h
  obtain ⟨es, hes⟩ := Pair.ofPieces?_append hbefore start (piece :: after)
  rw [dictionaryPairs, pieces, hsplit, hes, Pair.ofPieces?, Pair.ofPiece?_of_isFaulty hfaulty]
  rfl

/-- A dictionary without a faulty piece can be read. -/
theorem exists_dictionaryPairs_eq_ok {s : String} (start : Nat)
    (h : ¬ ∃ before piece, FirstFaulty s.toList before piece) :
    ∃ es, dictionaryPairs s start = .ok es := by
  rw [exists_firstFaulty_iff] at h
  have hnone : ∀ p ∈ splitAt ',' s.toList, ¬ IsFaulty p := fun p hp hfaulty => h ⟨p, hp, hfaulty⟩
  obtain ⟨es, hes⟩ := Pair.ofPieces?_append hnone start []
  rw [List.append_nil] at hes
  exact ⟨_, hes⟩

/-- What stands in front of what is reported, and behind it. -/
theorem firstFaulty_split {s : List Char} {before : List (List Char)} {piece : List Char}
    (h : FirstFaulty s before piece) : ∃ rest,
      s = before.flatMap (· ++ [',']) ++ (piece.takeWhile isBlank ++ (trim piece ++ rest)) := by
  obtain ⟨after, hsplit, -, -⟩ := h
  obtain ⟨ending, -, hpiece⟩ := exists_append_trim piece
  refine ⟨ending ++ after.flatMap (',' :: ·), ?_⟩
  rw [eq_append_of_splitAt hsplit]
  congr 1
  conv_lhs => rw [hpiece]
  simp only [List.append_assoc]

theorem contentStart_eq (offset : Nat) (piece : List Char) :
    Pair.contentStart offset piece = offset + units (piece.takeWhile isBlank) := by
  have hunits : units piece = units (piece.takeWhile isBlank) + units (trimStart piece) := by
    rw [← units_append, trimStart, List.takeWhile_append_dropWhile]
  rw [Pair.contentStart]
  omega

end Phrasebook
