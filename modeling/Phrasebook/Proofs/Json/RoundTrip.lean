import Phrasebook.Proofs.Json.Members
import Phrasebook.Proofs.Json.Quoted
import Phrasebook.Proofs.Number.Shortest

/-!
# Reading what was written

The text of a value is one JSON value again, on one line: strings and structure are read back as
they were, the members of an object come in the order in which they were written, a number is read
as what its numeral denotes, and a number that is not finite as `null`.

Results:
* `head_render`: how a text starts.
* `reads_of_exact`: a text is read to its end, whatever follows it.
* `parsePoints?_render`, `parse?_render`: the whole text of a value is read.
* `get?_rereadObject`: an object keeps its members.
* `not_control_of_mem_render`: a text has no line break and no other control character.
-/

namespace Phrasebook.Json

open Phrasebook.Text

/-! ## What a text denotes -/

/-- What the text of a number denotes. -/
def rereadNumber : Binary64 → Json
  | .infinite _ => .null
  | x => ((numberValue x.text.toList).map (.number ·.1)).getD .null

mutual

/-- What the text of a value denotes. -/
def reread : Json → Json
  | .null => .null
  | .bool b => .bool b
  | .number x => rereadNumber x
  | .string s => .string s
  | .array items => .array (rereadItems items)
  | .object ms => .object (Members.putAll [] (writingOrder (rereadMembers ms)))

/-- What the texts of items denote. -/
def rereadItems : List Json → List Json
  | [] => []
  | item :: items => reread item :: rereadItems items

/-- What the texts of the values of members denote. -/
def rereadMembers : Members → Members
  | [] => []
  | (key, value) :: ms => (key, reread value) :: rereadMembers ms

end

/-- Every number of the value is one of the 64-bit format. -/
inductive Exact : Json → Prop
  | null : Exact .null
  | bool (b : Bool) : Exact (.bool b)
  | number {x : Binary64} (h : x.InFormat) : Exact (.number x)
  | string (s : String) : Exact (.string s)
  | array {items : List Json} (h : ∀ item ∈ items, Exact item) : Exact (.array items)
  | object {ms : Members} (h : ∀ m ∈ ms, Exact m.2) : Exact (.object ms)

/-- Members with strings as values have no numbers. -/
theorem exact_of_strings (texts : List (String × String)) :
    ∀ m ∈ texts.map fun t => (t.1, Json.string t.2), Exact m.2 := by
  intro m hm
  obtain ⟨t, -, rfl⟩ := List.mem_map.1 hm
  exact .string t.2

theorem rereadItems_eq_map (items : List Json) : rereadItems items = items.map reread := by
  induction items with
  | nil => rfl
  | cons item items ih => rw [rereadItems, ih, List.map_cons]

theorem rereadMembers_eq_map (ms : Members) :
    rereadMembers ms = ms.map fun m => (m.1, reread m.2) := by
  induction ms with
  | nil => rfl
  | cons m ms ih => rw [rereadMembers, ih, List.map_cons]

theorem reread_object (ms : Members) :
    reread (.object ms) =
      .object (Members.putAll [] ((writingOrder ms).map fun m => (m.1, reread m.2))) := by
  rw [reread, rereadMembers_eq_map, writingOrder_map]

theorem points_reread_object (ms : Members) :
    (reread (.object ms)).points =
      .object (Members.putAll []
        (mapTextMembers Text.points (rereadMembers (writingOrder ms)))) := by
  rw [reread_object, ← rereadMembers_eq_map, points, mapText,
    mapTextMembers_putAll injective_points]
  rfl

/-- An object in which each key stands once keeps its members. -/
theorem get?_rereadObject {ms : Members} (h : ms.Distinct) :
    ∃ other : Members, reread (.object ms) = .object other ∧
      ∀ key, other.get? key = (ms.get? key).map reread := by
  have hperm := writingOrder_perm ms
  have horder : Members.Distinct (writingOrder ms) := by
    have hkeys : ((writingOrder ms).map (·.1)).Perm (ms.map (·.1)) := hperm.map _
    exact hkeys.nodup_iff.2 h
  have hdistinct : Members.Distinct ((writingOrder ms).map fun m => (m.1, reread m.2)) := by
    rw [Members.Distinct, List.map_map]
    exact horder
  refine ⟨_, reread_object ms, fun key => ?_⟩
  rw [Members.putAll_nil_of_distinct hdistinct, Members.get?_map, Members.get?_perm hperm horder]

/-! ## Texts as characters -/

theorem writeItems_eq_map (layout : Layout) (items : List Json) :
    writeItems layout items = items.map (write layout) := by
  induction items with
  | nil => rfl
  | cons item items ih => rw [writeItems, ih, List.map_cons]

theorem writeMembers_eq_map (layout : Layout) (ms : Members) :
    writeMembers layout ms = ms.map fun m => (m.1, write layout m.2) := by
  induction ms with
  | nil => rfl
  | cons m ms ih => rw [writeMembers, ih, List.map_cons]

theorem toList_enclose (opening closing : String) (parts : List String) :
    (Layout.compact.enclose opening closing parts).toList =
      opening.toList ++ ([','].intercalate (parts.map String.toList) ++ closing.toList) := by
  cases parts with
  | nil => simp [Layout.enclose]
  | cons part parts =>
    simp [Layout.enclose, Layout.lineBreak, Layout.deeper, String.toList_intercalate]

/-- The characters of items, with commas. -/
def itemChars (items : List Json) : List Char :=
  [','].intercalate (items.map fun item => item.render.toList)

theorem toList_render_array (items : List Json) :
    (Json.array items).render.toList = '[' :: (itemChars items ++ [']']) := by
  rw [render, write, toList_enclose, writeItems_eq_map, List.map_map]
  rfl

/-- The characters of a member. -/
def memberChars (m : String × Json) : List Char :=
  (quote m.1).toList ++ ':' :: m.2.render.toList

/-- The characters of members, with commas. -/
def membersChars (ms : Members) : List Char := [','].intercalate (ms.map memberChars)

/-- The members of an object come in the order of writing. -/
theorem toList_render_object (ms : Members) :
    (Json.object ms).render.toList = '\x7b' :: (membersChars (writingOrder ms) ++ ['\x7d']) := by
  have hmember : ∀ m : String × Json,
      (quote m.1 ++ ":" ++ write .compact m.2).toList = memberChars m := by
    intro m
    simp [memberChars, render]
  rw [render, write, toList_enclose, writeMembers_eq_map, writingOrder_map, List.map_map,
    List.map_map]
  simp only [Function.comp_def, Layout.colon, Layout.deeper, hmember]
  rfl

theorem skipBlanks_cons {c : Char} (h : 0x20 < c.toNat) (s : List Char) :
    skipBlanks (c :: s) = c :: s := by
  have hspace : c ≠ ' ' := by rintro rfl; exact absurd h (by decide)
  have htab : c ≠ '\t' := by rintro rfl; exact absurd h (by decide)
  have hfeed : c ≠ '\n' := by rintro rfl; exact absurd h (by decide)
  have hreturn : c ≠ '\r' := by rintro rfl; exact absurd h (by decide)
  simp [skipBlanks, hspace, htab, hfeed, hreturn]

/-! ## Numbers -/

section

variable {negative : Bool} {m : Nat} {e : Int}

/-- The text of a number is a numeral, and denotes what the numeral does. -/
theorem exists_render_number (h : Binary64.InFormat (.finite negative m e)) :
    ∃ (numeral : Numeral) (minus : Bool),
      (Json.number (.finite negative m e)).render.toList =
        (if minus then ['-'] else []) ++ numeral.chars ∧
      reread (.number (.finite negative m e)) = .number (numeral.value minus) := by
  obtain ⟨numeral, minus, htext⟩ := Binary64.exists_numeral h
  refine ⟨numeral, minus, htext, ?_⟩
  have hread := numberValue_chars numeral minus ends_nil
  rw [List.append_nil, ← htext] at hread
  rw [reread, rereadNumber, hread]
  · rfl
  · intro sign hsign
    cases hsign

end

/-- A numeral starts with a minus sign or a digit. -/
theorem head_signed (numeral : Numeral) (minus : Bool) :
    ∃ c s, (if minus then ['-'] else []) ++ numeral.chars = c :: s ∧
      (c = '-' ∨ isDigit c = true) := by
  cases minus with
  | true => exact ⟨'-', numeral.chars, rfl, .inl rfl⟩
  | false =>
    obtain ⟨c, s, hchars, hc⟩ := head_chars numeral
    exact ⟨c, s, hchars, .inr hc⟩

theorem toNat_of_sign_or_digit {c : Char} (h : c = '-' ∨ isDigit c = true) :
    0x2D ≤ c.toNat ∧ c.toNat ≤ 0x39 := by
  rcases h with rfl | h
  · decide
  · obtain ⟨hlow, hhigh⟩ := Integer.toNat_of_isDigit h
    omega

/-- What starts with a minus sign or a digit is read as a number. -/
theorem readValue_of_sign_or_digit {c : Char} (h : c = '-' ∨ isDigit c = true) (fuel : Nat)
    (s : List Char) : readValue (fuel + 1) (c :: s) =
      (numberValue (c :: s)).map fun (x, rest) => (.number x, rest) := by
  have hbounds := toNat_of_sign_or_digit h
  have hmarks : ['"', '[', '\x7b', 't', 'f', 'n'].all
      (fun d => decide ¬ (0x2D ≤ d.toNat ∧ d.toNat ≤ 0x39)) = true := by decide
  have hother : ∀ d ∈ ['"', '[', '\x7b', 't', 'f', 'n'], ∀ t, c :: s ≠ d :: t := by
    intro d hd t heq
    obtain ⟨rfl, -⟩ := List.cons.inj heq
    exact of_decide_eq_true (List.all_eq_true.1 hmarks c hd) hbounds
  rw [readValue, skipBlanks_cons (by omega)]
  split
  · next heq => cases heq
  · next t heq => exact absurd heq (hother _ (by decide) t)
  · next t heq => exact absurd heq (hother _ (by decide) t)
  · next t heq => exact absurd heq (hother _ (by decide) t)
  · next t heq => exact absurd heq (hother _ (by decide) t)
  · next t heq => exact absurd heq (hother _ (by decide) t)
  · next t heq => exact absurd heq (hother _ (by decide) t)
  · rfl

/-! ## How a text starts -/

/-- A text starts with a mark that is no blank and closes no array. -/
theorem head_render {j : Json} (h : Exact j) :
    ∃ c s, j.render.toList = c :: s ∧ 0x20 < c.toNat ∧ c ≠ ']' := by
  cases h with
  | null => exact ⟨'n', ['u', 'l', 'l'], rfl, by decide, by decide⟩
  | bool b =>
    cases b with
    | false => exact ⟨'f', ['a', 'l', 's', 'e'], rfl, by decide, by decide⟩
    | true => exact ⟨'t', ['r', 'u', 'e'], rfl, by decide, by decide⟩
  | @number x h =>
    cases x with
    | infinite sign => exact ⟨'n', ['u', 'l', 'l'], by simp [render, write], by decide, by decide⟩
    | finite sign m e =>
      obtain ⟨numeral, minus, htext, -⟩ := exists_render_number h
      obtain ⟨c, s, hcs, hc⟩ := head_signed numeral minus
      obtain ⟨hlow, hhigh⟩ := toNat_of_sign_or_digit hc
      refine ⟨c, s, htext.trans hcs, by omega, ?_⟩
      rintro rfl
      exact absurd hhigh (by decide)
  | string s =>
    exact ⟨'"', s.toList.flatMap escape ++ ['"'], toList_quote s, by decide, by decide⟩
  | array h => exact ⟨'[', _, toList_render_array _, by decide, by decide⟩
  | object h => exact ⟨'\x7b', _, toList_render_object _, by decide, by decide⟩

/-! ## Reading a text to its end -/

/-- With fuel for its length, the text of a value is read to its end, unless what follows goes on
with a numeral. -/
def Reads (j : Json) : Prop :=
  ∀ fuel rest, j.render.toList.length ≤ fuel → Ends rest →
    readValue fuel (j.render.toList ++ rest) = some (j.reread.points, rest)

theorem reads_number {x : Binary64} (h : x.InFormat) : Reads (.number x) := by
  intro fuel rest hfuel hrest
  obtain ⟨c, s, hcs, hc, -⟩ := head_render (.number h)
  have hlength : (Json.number x).render.toList.length = s.length + 1 := by
    rw [hcs, List.length_cons]
  obtain ⟨fuel, rfl⟩ : ∃ n, fuel = n + 1 := ⟨fuel - 1, by omega⟩
  cases x with
  | infinite sign =>
    have htext : (Json.number (.infinite sign)).render.toList = ['n', 'u', 'l', 'l'] := by
      simp [render, write]
    rw [htext]
    simp [readValue, skipBlanks, expect, reread, rereadNumber, mapText]
  | finite sign m e =>
    obtain ⟨numeral, minus, htext, hreread⟩ := exists_render_number h
    obtain ⟨d, t, hdt, hd⟩ := head_signed numeral minus
    rw [htext, hdt, List.cons_append, readValue_of_sign_or_digit hd, ← List.cons_append, ← hdt,
      numberValue_chars numeral minus hrest, hreread]
    rfl

theorem reads_string (s : String) : Reads (.string s) := by
  intro fuel rest hfuel _
  have htext : (Json.string s).render.toList = '"' :: (s.toList.flatMap escape ++ ['"']) :=
    toList_quote s
  rw [htext, List.length_cons] at hfuel
  obtain ⟨fuel, rfl⟩ : ∃ n, fuel = n + 1 := ⟨fuel - 1, by omega⟩
  rw [htext, List.cons_append, readValue, skipBlanks_cons (by decide)]
  simp [stringBody_escape, reread, mapText]

/-! ### Items -/

theorem itemChars_singleton (item : Json) : itemChars [item] = item.render.toList := by
  rw [itemChars, List.map_singleton, List.intercalate_singleton]

theorem itemChars_cons_cons (item next : Json) (items : List Json) :
    itemChars (item :: next :: items) = item.render.toList ++ ',' :: itemChars (next :: items) := by
  simp [itemChars, List.intercalate_cons_cons]

theorem readItems_itemChars {items : List Json} (hne : items ≠ [])
    (h : ∀ item ∈ items, Reads item) {fuel : Nat} (hfuel : (itemChars items).length < fuel)
    (rest : List Char) :
    readItems fuel (itemChars items ++ ']' :: rest) =
      some (items.map fun item => item.reread.points, rest) := by
  induction items generalizing fuel with
  | nil => exact absurd rfl hne
  | cons item items ih =>
    obtain ⟨fuel, rfl⟩ : ∃ n, fuel = n + 1 := ⟨fuel - 1, by omega⟩
    cases items with
    | nil =>
      rw [itemChars_singleton] at hfuel ⊢
      have hread := h item List.mem_cons_self fuel (']' :: rest) (by omega) (ends_cons (by simp) _)
      rw [readItems, hread]
      simp [skipBlanks_cons]
    | cons next items =>
      rw [itemChars_cons_cons] at hfuel ⊢
      rw [List.length_append, List.length_cons] at hfuel
      have hread := h item List.mem_cons_self fuel
        (',' :: (itemChars (next :: items) ++ ']' :: rest)) (by omega) (ends_cons (by simp) _)
      have hrest : readItems fuel (itemChars (next :: items) ++ ']' :: rest) =
          some ((next :: items).map fun item => item.reread.points, rest) :=
        ih (by simp) (fun j hj => h j (List.mem_cons_of_mem _ hj)) (by omega)
      rw [List.append_assoc, List.cons_append, readItems, hread]
      simp [skipBlanks_cons, hrest]

theorem reads_array {items : List Json} (hexact : ∀ item ∈ items, Exact item)
    (h : ∀ item ∈ items, Reads item) : Reads (.array items) := by
  intro fuel rest hfuel _
  rw [toList_render_array, List.length_cons, List.length_append, List.length_singleton] at hfuel
  obtain ⟨fuel, rfl⟩ : ∃ n, fuel = n + 1 := ⟨fuel - 1, by omega⟩
  rw [toList_render_array, List.cons_append, List.append_assoc, List.singleton_append, reread,
    rereadItems_eq_map, points, mapText, mapTextItems_eq_map, List.map_map, readValue,
    skipBlanks_cons (by decide)]
  cases items with
  | nil => simp [itemChars, skipBlanks_cons]
  | cons item items =>
    have hread := readItems_itemChars (by simp) h
      (by omega : (itemChars (item :: items)).length < fuel) rest
    obtain ⟨c, s, hcs, hblank, hclose⟩ := head_render (hexact item List.mem_cons_self)
    have hhead : ∃ t, itemChars (item :: items) = c :: t := by
      cases items with
      | nil => exact ⟨s, by rw [itemChars_singleton, hcs]⟩
      | cons next items => exact ⟨_, by rw [itemChars_cons_cons, hcs, List.cons_append]⟩
    obtain ⟨t, ht⟩ := hhead
    rw [ht, List.cons_append] at hread ⊢
    simp [skipBlanks_cons hblank, hclose, hread]

/-! ### Members -/

theorem membersChars_singleton (m : String × Json) : membersChars [m] = memberChars m := by
  rw [membersChars, List.map_singleton, List.intercalate_singleton]

theorem membersChars_cons_cons (m next : String × Json) (ms : Members) :
    membersChars (m :: next :: ms) = memberChars m ++ ',' :: membersChars (next :: ms) := by
  simp [membersChars, List.intercalate_cons_cons]

theorem memberChars_eq (m : String × Json) :
    memberChars m = '"' :: (m.1.toList.flatMap escape ++ '"' :: ':' :: m.2.render.toList) := by
  rw [memberChars, toList_quote, List.cons_append, List.append_assoc, List.singleton_append]

/-- The last member is set. -/
theorem readMembers_last {m : String × Json} (h : Reads m.2) {fuel : Nat}
    (hfuel : m.2.render.toList.length ≤ fuel) (ms : Members Points) (rest : List Char) :
    readMembers (fuel + 1) ms (memberChars m ++ '\x7d' :: rest) =
      some (ms.put (Text.points m.1) m.2.reread.points, rest) := by
  have hread := h fuel ('\x7d' :: rest) hfuel (ends_cons (by simp) _)
  rw [memberChars_eq, List.cons_append, readMembers, skipBlanks_cons (by decide)]
  simp [stringBody_escape, skipBlanks_cons, hread]

/-- A member is set before those behind it are. -/
theorem readMembers_more {m : String × Json} (h : Reads m.2) {fuel : Nat}
    (hfuel : m.2.render.toList.length ≤ fuel) (ms : Members Points) (rest : List Char) :
    readMembers (fuel + 1) ms (memberChars m ++ ',' :: rest) =
      readMembers fuel (ms.put (Text.points m.1) m.2.reread.points) rest := by
  have hread := h fuel (',' :: rest) hfuel (ends_cons (by simp) _)
  rw [memberChars_eq, List.cons_append, readMembers, skipBlanks_cons (by decide)]
  simp [stringBody_escape, skipBlanks_cons, hread]

theorem readMembers_membersChars {members : Members} (hne : members ≠ [])
    (h : ∀ m ∈ members, Reads m.2) {fuel : Nat} (hfuel : (membersChars members).length < fuel)
    (ms : Members Points) (rest : List Char) :
    readMembers fuel ms (membersChars members ++ '\x7d' :: rest) =
      some (ms.putAll (mapTextMembers Text.points (rereadMembers members)), rest) := by
  induction members generalizing fuel ms with
  | nil => exact absurd rfl hne
  | cons m members ih =>
    obtain ⟨fuel, rfl⟩ : ∃ n, fuel = n + 1 := ⟨fuel - 1, by omega⟩
    have hvalue : m.2.render.toList.length < (memberChars m).length := by
      rw [memberChars_eq]
      simp
      omega
    cases members with
    | nil =>
      rw [membersChars_singleton] at hfuel ⊢
      exact readMembers_last (h m List.mem_cons_self) (by omega) ms rest
    | cons next members =>
      rw [membersChars_cons_cons] at hfuel ⊢
      rw [List.length_append, List.length_cons] at hfuel
      have hrest : readMembers fuel (ms.put (Text.points m.1) m.2.reread.points)
          (membersChars (next :: members) ++ '\x7d' :: rest) =
          some ((ms.put (Text.points m.1) m.2.reread.points).putAll
            (mapTextMembers Text.points (rereadMembers (next :: members))), rest) :=
        ih (by simp) (fun k hk => h k (List.mem_cons_of_mem _ hk)) (by omega) _
      rw [List.append_assoc, List.cons_append,
        readMembers_more (h m List.mem_cons_self) (by omega), hrest]
      rfl

theorem reads_object {ms : Members} (h : ∀ m ∈ ms, Reads m.2) : Reads (.object ms) := by
  intro fuel rest hfuel _
  rw [toList_render_object, List.length_cons, List.length_append, List.length_singleton] at hfuel
  obtain ⟨fuel, rfl⟩ : ∃ n, fuel = n + 1 := ⟨fuel - 1, by omega⟩
  rw [toList_render_object, List.cons_append, List.append_assoc, List.singleton_append,
    points_reread_object, readValue, skipBlanks_cons (by decide)]
  cases horder : writingOrder ms with
  | nil => simp [membersChars, skipBlanks_cons, Members.putAll, rereadMembers, mapTextMembers]
  | cons m members =>
    rw [horder] at hfuel
    have hmembers : ∀ k ∈ m :: members, Reads k.2 := by
      intro k hk
      rw [← horder] at hk
      exact h k ((writingOrder_perm ms).mem_iff.1 hk)
    have hread := readMembers_membersChars (by simp) hmembers
      (by omega : (membersChars (m :: members)).length < fuel) [] rest
    have hhead : ∃ t, membersChars (m :: members) = '"' :: t := by
      cases members with
      | nil => exact ⟨_, by rw [membersChars_singleton, memberChars_eq]⟩
      | cons next members =>
        exact ⟨_, by rw [membersChars_cons_cons, memberChars_eq, List.cons_append]⟩
    obtain ⟨t, ht⟩ := hhead
    rw [ht, List.cons_append] at hread ⊢
    simp [skipBlanks_cons, hread]

/-! ## Whole texts -/

/-- The text of a value is read to its end, whatever follows it. -/
theorem reads_of_exact {j : Json} (h : Exact j) : Reads j := by
  induction h with
  | null =>
    intro fuel rest hfuel _
    obtain ⟨fuel, rfl⟩ : ∃ n, fuel = n + 1 := ⟨fuel - 1, by simp [render, write] at hfuel; omega⟩
    rfl
  | bool b =>
    intro fuel rest hfuel _
    cases b with
    | false =>
      obtain ⟨fuel, rfl⟩ : ∃ n, fuel = n + 1 := ⟨fuel - 1, by simp [render, write] at hfuel; omega⟩
      rfl
    | true =>
      obtain ⟨fuel, rfl⟩ : ∃ n, fuel = n + 1 := ⟨fuel - 1, by simp [render, write] at hfuel; omega⟩
      rfl
  | number h => exact reads_number h
  | string s => exact reads_string s
  | array h ih => exact reads_array h ih
  | object h ih => exact reads_object ih

/-- The whole text of a value is read. -/
theorem parsePoints?_render {j : Json} (h : Exact j) :
    parsePoints? j.render.toList = some j.reread.points := by
  have hread := reads_of_exact h (j.render.toList.length + 1) [] (by omega) ends_nil
  rw [List.append_nil] at hread
  rw [parsePoints?, hread]
  rfl

/-- No text that is written has a lone surrogate: read as strings, the texts are what they were. -/
theorem parse?_render {j : Json} (h : Exact j) : parse? j.render.toList = some j.reread := by
  rw [parse?, parsePoints?_render h, Option.map_some, ofPoints_points]

/-! ## Control characters -/

theorem not_control_of_all {s : List Char} (h : s.all (fun c => decide (0x20 ≤ c.toNat)) = true) :
    ∀ c ∈ s, 0x20 ≤ c.toNat :=
  fun c hc => of_decide_eq_true (List.all_eq_true.1 h c hc)

theorem not_control_of_mem_signed {numeral : Numeral} {minus : Bool} {c : Char}
    (h : c ∈ (if minus then ['-'] else []) ++ numeral.chars) : 0x20 ≤ c.toNat := by
  have hdigit : isDigit c = true → 0x20 ≤ c.toNat := by
    intro hc
    have hlow := (Integer.toNat_of_isDigit hc).1
    omega
  rw [List.mem_append, Numeral.chars, List.mem_append, List.mem_append] at h
  rcases h with h | h | h | h
  · obtain rfl : c = '-' := by
      cases minus with
      | false => cases h
      | true => exact List.mem_singleton.1 h
    decide
  · exact hdigit (numeral.allDigits_whole.2 c h)
  · unfold Numeral.fractionChars at h
    split at h
    · cases h
    · rcases List.mem_cons.1 h with rfl | h
      · decide
      · exact hdigit (numeral.isDigit_fraction c h)
  · unfold Numeral.exponentChars at h
    split at h
    · cases h
    · next sign ds hexponent =>
      obtain ⟨hsign, hds⟩ := numeral.allDigits_exponent sign ds hexponent
      rcases List.mem_cons.1 h with rfl | h
      · decide
      rcases List.mem_cons.1 h with rfl | h
      · rcases hsign with rfl | rfl
        · decide
        · decide
      · exact hdigit (hds.2 c h)

theorem not_control_of_mem_intercalate {parts : List (List Char)}
    (h : ∀ part ∈ parts, ∀ c ∈ part, 0x20 ≤ c.toNat) :
    ∀ c ∈ [','].intercalate parts, 0x20 ≤ c.toNat := by
  induction parts with
  | nil => simp
  | cons part parts ih =>
    intro c hc
    cases parts with
    | nil =>
      rw [List.intercalate_singleton] at hc
      exact h part List.mem_cons_self c hc
    | cons next parts =>
      rw [List.intercalate_cons_cons, List.mem_append, List.mem_append, List.mem_singleton] at hc
      rcases hc with (hc | rfl) | hc
      · exact h part List.mem_cons_self c hc
      · decide
      · exact ih (fun p hp => h p (List.mem_cons_of_mem _ hp)) c hc

/-- A text has no line break and no other control character. -/
theorem not_control_of_mem_render {j : Json} (h : Exact j) :
    ∀ c ∈ j.render.toList, 0x20 ≤ c.toNat := by
  induction h with
  | null => exact not_control_of_all (by decide)
  | bool b =>
    cases b with
    | false => exact not_control_of_all (by decide)
    | true => exact not_control_of_all (by decide)
  | @number x h =>
    intro c hc
    cases x with
    | infinite sign =>
      have hnull : ∀ d ∈ ['n', 'u', 'l', 'l'], 0x20 ≤ d.toNat := not_control_of_all (by decide)
      exact hnull c (by simpa [render, write] using hc)
    | finite sign m e =>
      obtain ⟨numeral, minus, htext, -⟩ := exists_render_number h
      rw [htext] at hc
      exact not_control_of_mem_signed hc
  | string s =>
    intro c hc
    exact not_control_of_mem_quote hc
  | @array items _ ih =>
    intro c hc
    rw [toList_render_array, List.mem_cons, List.mem_append, List.mem_singleton] at hc
    rcases hc with rfl | hc | rfl
    · decide
    · refine not_control_of_mem_intercalate (fun part hpart => ?_) c hc
      obtain ⟨item, hitem, rfl⟩ := List.mem_map.1 hpart
      exact ih item hitem
    · decide
  | @object ms _ ih =>
    intro c hc
    rw [toList_render_object, List.mem_cons, List.mem_append, List.mem_singleton] at hc
    rcases hc with rfl | hc | rfl
    · decide
    · refine not_control_of_mem_intercalate (fun part hpart => ?_) c hc
      obtain ⟨m, hm, rfl⟩ := List.mem_map.1 hpart
      intro d hd
      rw [memberChars, List.mem_append, List.mem_cons] at hd
      rcases hd with hd | rfl | hd
      · exact not_control_of_mem_quote hd
      · decide
      · exact ih m ((writingOrder_perm ms).mem_iff.1 hm) d hd
    · decide

end Phrasebook.Json
