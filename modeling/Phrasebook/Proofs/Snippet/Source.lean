import Phrasebook.Proofs.Literal.Inference
import Phrasebook.Snippet

/-!
# Reading Python source

A reader of the fragment of Python that snippets are written in: integers, quoted texts, values,
pairs of a dictionary, names, and items separated by commas. A reader returns what it has read and
the source behind it; it refuses everything outside the fragment.

Results:
* `integer_numeral`, `text_quote`, `value_render`, `pair_render`, `operand_render`: what is written
  is read back, up to the source behind it.
* `items_intercalate`: so are items with a comma and a space between two of them.
-/

namespace Phrasebook

open Phrasebook.Text

/-- A reader of source: what it has read and the source behind it. -/
abbrev Reader (α : Type) := List Char → Option (α × List Char)

namespace Source

/-! ## Readers -/

/-- One or more decimal digits, as many as there are. -/
def natural : Reader Nat := fun s =>
  if (s.takeWhile isDigit).isEmpty then none
  else some (decimalValue (s.takeWhile isDigit), s.dropWhile isDigit)

/-- Decimal digits after an optional minus sign. -/
def integer : Reader Int
  | '-' :: s => (natural s).map fun (n, rest) => (-(n : Int), rest)
  | s => (natural s).map fun (n, rest) => ((n : Int), rest)

/-- The rest of a quoted text: it ends at the first double quote that is not escaped. A backslash
has to stand in front of a backslash or a double quote, and there is no LF or CR. -/
def textBody : Reader (List Char)
  | [] => none
  | '"' :: s => some ([], s)
  | ['\\'] => none
  | '\\' :: c :: s =>
    if c = '\\' ∨ c = '"' then (textBody s).map fun (w, rest) => (c :: w, rest) else none
  | c :: s =>
    if c = '\n' ∨ c = '\r' then none else (textBody s).map fun (w, rest) => (c :: w, rest)

/-- A text in double quotes. -/
def text : Reader String
  | '"' :: s => (textBody s).map fun (w, rest) => (String.ofList w, rest)
  | _ => none

/-- A value: a text or an integer. -/
def value : Reader Literal := fun s =>
  if s.head? = some '"' then (text s).map fun (t, rest) => (.text t, rest)
  else (integer s).map fun (n, rest) => (.integer n, rest)

/-- Fixed words. -/
def words (w : String) (s : List Char) : Option (List Char) := w.toList.isPrefixOf? s

/-- A pair of a dictionary: a key, a colon with a space, and a value. -/
def pair : Reader Pair := fun s =>
  (text s).bind fun (key, s) => (words ": " s).bind fun s =>
    (value s).map fun (v, rest) => (⟨key, v⟩, rest)

/-- The left side of a comparison: an integer if it starts with a digit, else a name. -/
def operand : Reader Snippet.Operand := fun s =>
  if (s.head?.map isDigit).getD false then (integer s).map fun (n, rest) => (.integer n, rest)
  else if (s.takeWhile Snippet.isNamePart).isEmpty then none
  else some (.variable (String.ofList (s.takeWhile Snippet.isNamePart)),
    s.dropWhile Snippet.isNamePart)

/-- One or more items with a comma and a space between two of them, at most as many as the fuel. -/
def itemsWith {α : Type} (item : Reader α) : Nat → Reader (List α)
  | 0, _ => none
  | fuel + 1, s => (item s).bind fun (a, rest) =>
    match words ", " rest with
    | some rest => (itemsWith item fuel rest).map fun (as, rest) => (a :: as, rest)
    | none => some ([a], rest)

/-- One or more items. There are fewer separators than characters, so the fuel does not end. -/
def items {α : Type} (item : Reader α) : Reader (List α) := fun s =>
  itemsWith item (s.length + 1) s

/-! ## Reading back -/

/-- The source does not go on with a digit. -/
def NoDigit (s : List Char) : Prop := ∀ c, s.head? = some c → isDigit c = false

/-- What is written is read back, if the source behind it does not go on with a digit. -/
def ReadsBack {α : Type} (r : Reader α) (written : String) (a : α) : Prop :=
  ∀ rest, NoDigit rest → r (written.toList ++ rest) = some (a, rest)

theorem noDigit_nil : NoDigit [] := by
  rintro _ ⟨⟩

theorem noDigit_cons {c : Char} (h : isDigit c = false) (s : List Char) : NoDigit (c :: s) := by
  rintro _ ⟨⟩
  exact h

theorem words_append (w : String) (s : List Char) : words w (w.toList ++ s) = some s := by
  rw [words, List.isPrefixOf?_eq_some_iff_append_eq]

/-! ## Integers -/

theorem natural_toDigits (n : Nat) {rest : List Char} (hr : NoDigit rest) :
    natural (Nat.toDigits 10 n ++ rest) = some (n, rest) := by
  have hall := (Integer.allDigits_toDigits n).2
  have hnil : rest.takeWhile isDigit = [] ∧ rest.dropWhile isDigit = rest := by
    cases rest with
    | nil => exact ⟨rfl, rfl⟩
    | cons c rest => simp [hr c rfl]
  have hne : ¬ (Nat.toDigits 10 n).isEmpty = true := by simp
  rw [natural, List.takeWhile_append_of_pos hall, List.dropWhile_append_of_pos hall, hnil.1,
    hnil.2, List.append_nil, if_neg hne, Integer.decimalValue_toDigits]

/-- The digits of a number do not start with a minus sign. -/
theorem integer_toDigits (n : Nat) {rest : List Char} (hr : NoDigit rest) :
    integer (Nat.toDigits 10 n ++ rest) = some ((n : Int), rest) := by
  have hnat := natural_toDigits n hr
  have hall := (Integer.allDigits_toDigits n).2
  cases hd : Nat.toDigits 10 n with
  | nil => exact absurd hd Nat.toDigits_ne_nil
  | cons c ds =>
    rw [hd] at hnat hall
    have hc : isDigit c = true := hall c List.mem_cons_self
    rw [List.cons_append] at hnat ⊢
    unfold integer
    split
    · next he =>
      obtain ⟨rfl, -⟩ := List.cons.inj he
      exact absurd hc (by decide)
    · rw [hnat]
      rfl

/-- A numeral is read back. -/
theorem integer_numeral (n : Int) : ReadsBack integer (Integer.numeral n) n := by
  intro rest hr
  rcases Integer.numeral_cases n with ⟨k, rfl, hk⟩ | ⟨k, rfl, hk⟩
  · rw [hk]
    exact integer_toDigits k hr
  · rw [hk, List.cons_append, integer, natural_toDigits (k + 1) hr]
    rfl

/-! ## Texts -/

/-- The characters stand on one line. -/
def OneLine (s : List Char) : Prop := ∀ c ∈ s, c ≠ '\n' ∧ c ≠ '\r'

theorem textBody_body {s : List Char} (hs : OneLine s) (rest : List Char) :
    textBody (Quoted.body s ++ '"' :: rest) = some (s, rest) := by
  induction s with
  | nil => rw [Quoted.body_nil, List.nil_append, textBody]
  | cons c s ih =>
    have ih := ih fun d hd => hs d (List.mem_cons_of_mem _ hd)
    rw [Quoted.body_cons, List.append_assoc]
    by_cases hc : c = '\\' ∨ c = '"'
    · -- an escaped character
      rw [Quoted.escape, if_pos hc, List.cons_append, List.cons_append, List.nil_append, textBody,
        if_pos hc, ih]
      rfl
    · have hline : ¬ (c = '\n' ∨ c = '\r') := not_or.2 (hs c List.mem_cons_self)
      rw [not_or] at hc
      rw [Quoted.escape, if_neg (not_or.2 hc), List.cons_append, List.nil_append, textBody,
        if_neg hline, ih]
      · rfl
      · exact hc.2
      · exact fun he _ => hc.1 he
      · exact fun _ _ he => absurd he hc.1

/-- A quoted text is read back if it stands on one line, whatever follows. -/
theorem text_quote {s : String} (hs : OneLine s.toList) (rest : List Char) :
    text ((Quoted.quote s).toList ++ rest) = some (s, rest) := by
  have hq : (Quoted.quote s).toList ++ rest = '"' :: (Quoted.body s.toList ++ '"' :: rest) := by
    rw [Quoted.quote, String.toList_ofList]
    simp
  rw [hq, text, textBody_body hs, Option.map_some]
  show some (String.ofList s.toList, rest) = _
  rw [String.ofList_toList]

/-! ## Values and pairs -/

/-- A numeral starts with a minus sign or a digit. -/
theorem head_numeral (n : Int) :
    ∃ c w, (Integer.numeral n).toList = c :: w ∧ (c = '-' ∨ isDigit c = true) := by
  rcases Integer.numeral_cases n with ⟨k, -, hk⟩ | ⟨k, -, hk⟩
  · have hall := Integer.allDigits_toDigits k
    obtain ⟨c, w, hd⟩ := List.exists_cons_of_ne_nil hall.1
    exact ⟨c, w, hk.trans hd, .inr (hall.2 c (by simp [hd]))⟩
  · exact ⟨'-', _, hk, .inl rfl⟩

/-- A value is read back if its text stands on one line. -/
theorem value_render {v : Literal} (hv : OneLine v.chars) : ReadsBack value v.render v := by
  intro rest hr
  cases v with
  | integer n =>
    obtain ⟨c, w, hn, hc⟩ := head_numeral n
    have hq : ¬ ((Integer.numeral n).toList ++ rest).head? = some '"' := by
      rw [hn]
      rintro ⟨⟩
      exact absurd hc (by decide)
    rw [Literal.render, value, if_neg hq, integer_numeral n rest hr]
    rfl
  | text s =>
    have hq : ((Quoted.quote s).toList ++ rest).head? = some '"' := by
      rw [Quoted.quote, String.toList_ofList]
      rfl
    rw [Literal.render, value, if_pos hq, text_quote hv]
    rfl

/-- A pair is read back if its key and its value stand on one line. -/
theorem pair_render {e : Pair} (hk : OneLine e.key.toList) (hv : OneLine e.value.chars) :
    ReadsBack pair e.render e := by
  intro rest hr
  have he : e.render.toList ++ rest =
      (Quoted.quote e.key).toList ++ (": ".toList ++ (e.value.render.toList ++ rest)) := by
    have hdef : e.render = Quoted.quote e.key ++ ": " ++ e.value.render := rfl
    rw [hdef, String.toList_append, String.toList_append, List.append_assoc, List.append_assoc]
  rw [he]
  simp only [pair, text_quote hk, Option.bind_some, words_append, value_render hv rest hr,
    Option.map_some]

/-! ## Operands -/

/-- No name starts with a digit. -/
theorem not_isDigit_of_isNameStart {c : Char} (h : Snippet.isNameStart c = true) :
    isDigit c = false := by
  have hall : ∀ k < 10, Snippet.isNameStart (Char.ofNat (48 + k)) = false := by decide +kernel
  by_contra hd
  obtain ⟨hlo, hhi⟩ := Integer.toNat_of_isDigit (Bool.not_eq_false _ ▸ hd)
  have hc : Char.ofNat (48 + (c.toNat - 48)) = c := by
    rw [Nat.add_sub_cancel' hlo, Char.ofNat_toNat]
  have := hall (c.toNat - 48) (by omega)
  rw [hc, h] at this
  exact absurd this (by decide)

theorem isNamePart_of_isNameStart {c : Char} (h : Snippet.isNameStart c = true) :
    Snippet.isNamePart c = true := by
  simp only [Snippet.isNameStart, Bool.or_eq_true] at h
  simp only [Snippet.isNamePart, Bool.or_eq_true]
  tauto

/-- An operand is a natural number or has the form of a name. -/
def IsOperand : Snippet.Operand → Prop
  | .integer n => 0 ≤ n
  | .variable name => Snippet.isName name.toList = true

theorem operand_numeral (k : Nat) {rest : List Char} (hr : NoDigit rest) :
    operand ((Integer.numeral (k : Int)).toList ++ rest) = some (.integer k, rest) := by
  have hall := Integer.allDigits_toDigits k
  have hhead : (((Integer.numeral (k : Int)).toList ++ rest).head?.map isDigit).getD false =
      true := by
    rw [Integer.toList_numeral_natCast]
    obtain ⟨c, w, hd⟩ := List.exists_cons_of_ne_nil hall.1
    rw [hd]
    exact hall.2 c (by simp [hd])
  rw [operand, if_pos hhead, integer_numeral k rest hr]
  rfl

theorem operand_name {name : String} (hname : Snippet.isName name.toList = true)
    {rest : List Char} (hr : ∀ c, rest.head? = some c → Snippet.isNamePart c = false) :
    operand (name.toList ++ rest) = some (.variable name, rest) := by
  cases hs : name.toList with
  | nil => simp [hs, Snippet.isName] at hname
  | cons c w =>
    obtain ⟨hstart, hw⟩ : Snippet.isNameStart c = true ∧ w.all Snippet.isNamePart = true := by
      simpa [hs, Snippet.isName] using hname
    have hpart : ∀ d ∈ c :: w, Snippet.isNamePart d = true := by
      intro d hd
      rcases List.mem_cons.1 hd with rfl | hd
      · exact isNamePart_of_isNameStart hstart
      · exact List.all_eq_true.1 hw d hd
    have hend : rest.takeWhile Snippet.isNamePart = [] ∧
        rest.dropWhile Snippet.isNamePart = rest := by
      cases rest with
      | nil => exact ⟨rfl, rfl⟩
      | cons d rest => simp [hr d rfl]
    have hdigit : ¬ ((c :: w ++ rest).head?.map isDigit).getD false = true := by
      simp [not_isDigit_of_isNameStart hstart]
    rw [operand, if_neg hdigit, List.takeWhile_append_of_pos hpart,
      List.dropWhile_append_of_pos hpart, hend.1, hend.2, List.append_nil, ← hs,
      String.ofList_toList]
    simp [hs]

/-- An operand is read back, if nothing or a blank follows. -/
theorem operand_render {o : Snippet.Operand} (ho : IsOperand o) {rest : List Char}
    (hr : ∀ c, rest.head? = some c → c = ' ') :
    operand (o.render.toList ++ rest) = some (o, rest) := by
  have hblank : isDigit ' ' = false ∧ Snippet.isNamePart ' ' = false := by decide +kernel
  rcases o with n | name
  · obtain ⟨k, rfl⟩ := Int.eq_ofNat_of_zero_le ho
    exact operand_numeral k fun c hc => hr c hc ▸ hblank.1
  · exact operand_name ho fun c hc => hr c hc ▸ hblank.2

/-! ## Items -/

theorem itemsWith_intercalate {α : Type} {item : Reader α} {write : α → String} {as : List α}
    (hne : as ≠ []) (has : ∀ a ∈ as, ReadsBack item (write a) a) {rest : List Char}
    (hr : NoDigit rest) (hend : words ", " rest = none) : ∀ fuel, as.length ≤ fuel →
    itemsWith item fuel ((", ".intercalate (as.map write)).toList ++ rest) = some (as, rest) := by
  induction as with
  | nil => exact absurd rfl hne
  | cons a as ih =>
    rintro (_ | fuel) hf
    · exact absurd hf (by simp)
    · have ha := has a List.mem_cons_self
      cases as with
      | nil =>
        rw [List.map_singleton, String.intercalate_singleton, itemsWith, ha rest hr,
          Option.bind_some]
        simp only [hend]
      | cons b as =>
        -- the separator between two items starts with a comma
        have hsplit : (", ".intercalate ((a :: b :: as).map write)).toList ++ rest =
            (write a).toList ++ (", ".toList ++
              ((", ".intercalate ((b :: as).map write)).toList ++ rest)) := by
          rw [List.map_cons, List.map_cons, String.intercalate_cons_cons]
          simp [String.toList_append]
        have hcomma : ∀ s, NoDigit (", ".toList ++ s) := fun s => noDigit_cons rfl _
        rw [hsplit, itemsWith, ha _ (hcomma _), Option.bind_some]
        simp only [words_append]
        rw [ih (by simp) (fun c hc => has c (List.mem_cons_of_mem _ hc)) fuel
          (Nat.le_of_succ_le_succ hf)]
        rfl

theorem length_le_intercalate (ws : List String) :
    ws.length ≤ (", ".intercalate ws).toList.length + 1 := by
  induction ws with
  | nil => simp
  | cons w ws ih =>
    cases ws with
    | nil => simp
    | cons v ws =>
      rw [String.intercalate_cons_cons, String.toList_append, String.toList_append,
        List.length_append, List.length_append, List.length_cons]
      have hsep : ", ".toList.length = 2 := rfl
      omega

/-- Items are read back, up to source that is no further item. -/
theorem items_intercalate {α : Type} {item : Reader α} {write : α → String} {as : List α}
    (hne : as ≠ []) (has : ∀ a ∈ as, ReadsBack item (write a) a) {rest : List Char}
    (hr : NoDigit rest) (hend : words ", " rest = none) :
    items item ((", ".intercalate (as.map write)).toList ++ rest) = some (as, rest) := by
  refine itemsWith_intercalate hne has hr hend _ ?_
  have hlen := length_le_intercalate (as.map write)
  rw [List.length_map] at hlen
  rw [List.length_append]
  omega

end Source

end Phrasebook
