import Phrasebook.Literal.Collection
import Phrasebook.Proofs.Literal.Integer

/-!
# The values that an instruction writes

`valueOf`, `valuesOf` and `pairsOf` say what the tokens, lists and dictionaries of an instruction
stand for, without a reader of integers.

Results:
* `infer_eq_valueOf`, `listItems_eq_valuesOf`: values and lists are read as what they stand for.
* `dictionaryPairs_eq_pairsOf`: so are the dictionaries that can be read.
-/

namespace Phrasebook

open Phrasebook.Text

/-! ## What tokens stand for -/

/-- The value of a text without blanks around it: an integer, if it is made of digits after an
optional minus sign, else the text. -/
def trimmedValue : List Char → Literal
  | '-' :: ds =>
    if AllDigits ds then .integer (-(decimalValue ds : Int)) else .text (String.ofList ('-' :: ds))
  | ds => if AllDigits ds then .integer (decimalValue ds : Int) else .text (String.ofList ds)

/-- The value of a token. The blanks around it do not count. -/
def valueOf (token : List Char) : Literal := trimmedValue (trim token)

/-- The values of a list: one for each token between commas. -/
def valuesOf (s : String) : List Literal := (splitAt ',' s.toList).map valueOf

/-- The pair of a piece of a dictionary: the key in front of the first colon without the blanks
around it, and the value behind the colon. -/
def pairOf (piece : List Char) : Pair :=
  ⟨String.ofList (trim (piece.takeWhile (· ≠ ':'))), valueOf (piece.dropWhile (· ≠ ':')).tail⟩

/-- The pairs of a dictionary: one for each piece between commas. -/
def pairsOf (s : String) : List Pair := (splitAt ',' s.toList).map pairOf

/-! ## Inference -/

theorem isNarrow_iff (s : List Char) : Integer.isNarrow s = true ↔
    AllDigits s ∨ ∃ ds, s = '-' :: ds ∧ AllDigits ds := by
  have hdigits : ∀ t : List Char, (!t.isEmpty && t.all isDigit) = true ↔ AllDigits t := by
    intro t
    simp [AllDigits]
  unfold Integer.isNarrow
  split
  · next ds =>
    rw [hdigits]
    constructor
    · intro h
      exact .inr ⟨ds, rfl, h⟩
    · rintro (h | ⟨_, he, h⟩)
      · exact absurd (h.2 '-' List.mem_cons_self) (by decide)
      · cases he
        exact h
  · next hno =>
    rw [hdigits]
    constructor
    · exact .inl
    · rintro (h | ⟨ds, rfl, -⟩)
      · exact h
      · exact absurd rfl (hno ds)

theorem infer_trimmed (s : List Char) (hs : trim s = s) :
    Literal.infer (String.ofList s) = trimmedValue s := by
  simp only [Literal.infer, String.toList_ofList, hs, Integer.isToken, Integer.ofSource?]
  by_cases hn : Integer.isNarrow s = true
  · rw [if_pos hn]
    rcases (isNarrow_iff s).1 hn with h | ⟨ds, rfl, h⟩
    · rw [Integer.ofTrimmed?_of_digits h, trimmedValue, if_pos h]
      rintro ds rfl
      exact absurd (h.2 '-' List.mem_cons_self) (by decide)
    · rw [Integer.ofTrimmed?_of_negative h, trimmedValue, if_pos h]
  · rw [if_neg hn]
    rw [isNarrow_iff, not_or] at hn
    unfold trimmedValue
    split
    · next ds => rw [if_neg fun h => hn.2 ⟨ds, rfl, h⟩]
    · rw [if_neg hn.1]

/-- A token is inferred to be the value that it stands for. -/
theorem infer_eq_valueOf (token : List Char) :
    Literal.infer (String.ofList token) = valueOf token := by
  have htrim : Literal.infer (String.ofList token) =
      Literal.infer (String.ofList (trim token)) := by
    simp [Literal.infer, trim_trim]
  rw [htrim, infer_trimmed _ (trim_trim token), valueOf]

theorem listItems_eq_valuesOf (s : String) : listItems s = valuesOf s := by
  rw [listItems, valuesOf, pieces]
  exact List.map_congr_left fun t _ => infer_eq_valueOf t

/-! ## Dictionaries -/

theorem ofPiece?_eq_pairOf {offset : Nat} {piece : List Char} {e : Pair}
    (h : Pair.ofPiece? offset piece = .ok e) : e = pairOf piece := by
  rw [Pair.ofPiece?] at h
  split at h
  · next k v hkv =>
    obtain ⟨rfl, rfl⟩ := splitAt_eq_pair hkv
    split at h
    · cases h
    · cases h
      rw [pairOf, infer_eq_valueOf]
  · cases h

theorem ofPieces?_eq_map_pairOf {ps : List (List Char)} : ∀ {offset : Nat} {es : List Pair},
    Pair.ofPieces? offset ps = .ok es → es = ps.map pairOf := by
  induction ps with
  | nil => intro offset es h; cases h; rfl
  | cons p ps ih =>
    intro offset es h
    rw [Pair.ofPieces?] at h
    split at h
    · cases h
    · next e he =>
      split at h
      · cases h
      · next es' hes =>
        cases h
        rw [List.map_cons, ofPiece?_eq_pairOf he, ih hes]

/-- A dictionary that can be read is read as what it stands for. -/
theorem dictionaryPairs_eq_pairsOf {s : String} {start : Nat} {es : List Pair}
    (h : dictionaryPairs s start = .ok es) : es = pairsOf s :=
  ofPieces?_eq_map_pairOf h

/-! ## Characters of values -/

/-- The characters of a value that is a text. -/
def Literal.chars : Literal → List Char
  | .integer _ => []
  | .text s => s.toList

theorem mem_of_mem_chars_valueOf {token : List Char} {c : Char} (h : c ∈ (valueOf token).chars) :
    c ∈ token := by
  refine mem_of_mem_trim ?_
  unfold valueOf trimmedValue at h
  split at h <;> split at h <;> simp_all [Literal.chars]

theorem mem_of_mem_key_pairOf {piece : List Char} {c : Char} (h : c ∈ (pairOf piece).key.toList) :
    c ∈ piece := by
  rw [pairOf, String.toList_ofList] at h
  exact (List.takeWhile_sublist _).subset (mem_of_mem_trim h)

theorem mem_of_mem_value_pairOf {piece : List Char} {c : Char}
    (h : c ∈ (pairOf piece).value.chars) : c ∈ piece :=
  (List.dropWhile_sublist _).subset (List.mem_of_mem_tail (mem_of_mem_chars_valueOf h))

end Phrasebook
