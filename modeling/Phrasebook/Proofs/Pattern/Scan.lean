import Mathlib.Tactic
import Phrasebook.Pattern.Token

/-!
# Scanning a text with a closing parenthesis behind it

The tokens of a text are cut off one after the other, and some readers look at the character behind
what they take. A closing parenthesis there never matters.

Results:
* `next_append`: the first token of a text is still its first token with a closing parenthesis
  behind the text.
* `scan_append`: so the tokens of a text come before the tokens of what starts with a closing
  parenthesis.
* `countsInOrder_of_scan`: no quantifier that is read has a bound below its least count.
-/

namespace Phrasebook.Token

open Phrasebook.Text

variable {α : Type}

/-- A closing parenthesis behind the text does not change what the reader takes. -/
def Steady (f : List Char → Option (α × List Char)) : Prop :=
  ∀ ⦃s a r⦄, f s = some (a, r) → ∀ u, f (s ++ ')' :: u) = some (a, r ++ ')' :: u)

/-! ## Texts with a closing parenthesis behind them -/

theorem append_ne_cons {c : Char} (hc : c ≠ ')') {s : List Char} (hs : ∀ x, s = c :: x → False)
    (u : List Char) : ∀ x, s ++ ')' :: u = c :: x → False := by
  intro x hx
  cases s with
  | nil => exact hc (List.cons.inj hx).1.symm
  | cons d s => exact hs s (by rw [(List.cons.inj hx).1])

theorem takeWhile_append_cons {p : Char → Bool} {c : Char} (hc : p c = false) (s u : List Char) :
    (s ++ c :: u).takeWhile p = s.takeWhile p := by
  induction s with
  | nil => simp [hc]
  | cons d s ih => by_cases hd : p d = true <;> simp [hd, ih]

theorem dropWhile_append_cons {p : Char → Bool} {c : Char} (hc : p c = false) (s u : List Char) :
    (s ++ c :: u).dropWhile p = s.dropWhile p ++ c :: u := by
  induction s with
  | nil => simp [hc]
  | cons d s ih => by_cases hd : p d = true <;> simp [hd, ih]

/-- Where a search for a character succeeds, a longer text changes nothing. -/
theorem takeWhile_append_of_dropWhile {p : Char → Bool} {s rest : List Char} {c : Char}
    (h : s.dropWhile p = c :: rest) (t : List Char) :
    (s ++ t).takeWhile p = s.takeWhile p ∧ (s ++ t).dropWhile p = c :: (rest ++ t) := by
  have hlen : (s.takeWhile p).length ≠ s.length := by
    have hsplit := congrArg List.length (List.takeWhile_append_dropWhile (p := p) (l := s))
    rw [List.length_append, h, List.length_cons] at hsplit
    omega
  constructor
  · rw [List.takeWhile_append, if_neg hlen]
  · rw [List.dropWhile_append, h]
    rfl

/-! ## Numbers -/

theorem steady_hexDigits (n : Nat) : ∀ acc, Steady (hexDigits acc n) := by
  induction n with
  | zero =>
    intro acc s a r h u
    cases h
    rfl
  | succ n ih =>
    intro acc s a r h u
    cases s with
    | nil => cases h
    | cons c s =>
      obtain ⟨d, hd, h⟩ := Option.bind_eq_some_iff.1 h
      rw [List.cons_append, hexDigits, hd]
      exact ih _ h u

/-- Digits that are missing are still missing with a closing parenthesis in their place. -/
theorem hexDigits_append_eq_none (n : Nat) : ∀ acc s u, hexDigits acc n s = none →
    hexDigits acc n (s ++ ')' :: u) = none := by
  induction n with
  | zero =>
    intro acc s u h
    cases h
  | succ n ih =>
    intro acc s u h
    cases s with
    | nil => rfl
    | cons c s =>
      rw [List.cons_append, hexDigits]
      rw [hexDigits] at h
      cases hd : digitValue? c with
      | none => rfl
      | some d =>
        rw [hd] at h
        exact ih _ s u h

theorem steady_bracedHex : ∀ started acc, Steady (bracedHex started acc) := by
  intro started acc s
  induction s generalizing started acc with
  | nil => intro a r h; cases h
  | cons c s ih =>
    intro a r h u
    rw [List.cons_append, bracedHex]
    rw [bracedHex] at h
    by_cases hc : c = '\x7d'
    · rw [if_pos hc] at h ⊢
      cases started with
      | false => cases h
      | true => cases h; rfl
    · rw [if_neg hc] at h ⊢
      obtain ⟨d, hd, h⟩ := Option.bind_eq_some_iff.1 h
      rw [hd]
      exact ih _ _ h u

theorem steady_decimal : Steady decimal := by
  intro s a r h u
  obtain ⟨n, hn, h⟩ := Option.bind_eq_some_iff.1 h
  cases h
  have hparen : isDigit ')' = false := rfl
  rw [decimal, takeWhile_append_cons hparen, dropWhile_append_cons hparen, hn]
  rfl

theorem steady_braced : Steady braced := by
  intro s a r h u
  unfold braced at h
  split at h
  · next s =>
    obtain ⟨kind, hkind, h⟩ := Option.bind_eq_some_iff.1 h
    split at h
    · next c rest hdrop =>
      obtain ⟨rfl, rfl⟩ := Prod.mk.inj (Option.some.inj h)
      obtain ⟨htake, hdrop⟩ := takeWhile_append_of_dropWhile hdrop (')' :: u)
      show (property? ((s ++ ')' :: u).takeWhile (· != '\x7d'))).bind _ = _
      rw [htake, hkind]
      simp [hdrop]
    · cases h
  · cases h

/-- What follows an escape that could be the first half of a pair is not the second half because of
a closing parenthesis. -/
theorem not_escape_append {s : List Char} (hs : ∀ x, s = '\\' :: 'u' :: x → False) (u : List Char) :
    ∀ x, s ++ ')' :: u = '\\' :: 'u' :: x → False := by
  intro x hx
  match s with
  | [] => simp at hx
  | [c] => simp at hx
  | c :: d :: s =>
    rw [List.cons_append, List.cons_append, List.cons.injEq, List.cons.injEq] at hx
    exact hs s (by rw [hx.1, hx.2.1])

theorem steady_codePoint : Steady codePoint := by
  intro s a r h u
  by_cases hbrace : ∃ x, s = '\x7b' :: x
  · obtain ⟨s, rfl⟩ := hbrace
    obtain ⟨⟨n, rest⟩, hn, h⟩ := Option.bind_eq_some_iff.1 h
    show (bracedHex false 0 (s ++ ')' :: u)).bind _ = _
    rw [steady_bracedHex _ _ hn u]
    simp only [Option.bind_some] at h ⊢
    split at h
    · next hle => cases h; rw [if_pos hle]
    · cases h
  · have hs : ∀ x, s = '\x7b' :: x → False := fun x hx => hbrace ⟨x, hx⟩
    rw [codePoint.eq_2 _ hs] at h
    rw [codePoint.eq_2 _ (append_ne_cons (by decide) hs u)]
    obtain ⟨⟨n, rest⟩, hn, h⟩ := Option.bind_eq_some_iff.1 h
    rw [steady_hexDigits 4 0 hn u]
    simp only [Option.bind_eq_bind, Option.bind_some] at h ⊢
    split at h
    · next hhigh =>
      rw [if_pos hhigh]
      split at h
      · next s' =>
        simp only [List.cons_append]
        cases hm : hexDigits 0 4 s' with
        | none =>
          rw [hm] at h
          rw [hexDigits_append_eq_none 4 0 s' u hm]
          cases h
          rfl
        | some found =>
          obtain ⟨m, rest'⟩ := found
          rw [hm] at h
          rw [steady_hexDigits 4 0 hm u]
          simp only at h ⊢
          split at h
          · next hlow =>
            obtain ⟨rfl, rfl⟩ := Prod.mk.inj (Option.some.inj h)
            rw [if_pos hlow]
          · next hlow => rw [if_neg hlow]; cases h; rfl
      · next hno =>
        cases h
        split
        · next heq => exact (not_escape_append hno u _ heq).elim
        · rfl
    · next hhigh =>
      rw [if_neg hhigh]
      cases h
      rfl

/-! ## Escapes and classes -/

theorem steady_escape (inClass : Bool) : Steady (escape inClass) := by
  intro s a r h u
  unfold escape at h
  split at h
  case h_1 => cases h
  case h_8 s | h_9 s =>
    obtain ⟨⟨kind, rest⟩, hkind, h⟩ := Option.bind_eq_some_iff.1 h
    cases h
    show (braced (s ++ ')' :: u)).bind _ = _
    rw [steady_braced hkind u]
    rfl
  case h_15 s =>
    -- the character behind a zero must not be a digit, and a parenthesis is none
    cases s with
    | nil => cases h; rfl
    | cons c s =>
      show (if isDigit c = true then none else some (point 0, c :: (s ++ ')' :: u))) = _
      change (if isDigit c = true then none else some (point 0, c :: s)) = _ at h
      split at h
      · cases h
      · next hc => cases h; rw [if_neg hc]; rfl
  case h_16 s =>
    obtain ⟨⟨n, rest⟩, hn, h⟩ := Option.bind_eq_some_iff.1 h
    cases h
    show (hexDigits 0 2 (s ++ ')' :: u)).bind _ = _
    rw [steady_hexDigits 2 0 hn u]
    rfl
  case h_17 s =>
    obtain ⟨⟨n, rest⟩, hn, h⟩ := Option.bind_eq_some_iff.1 h
    cases h
    show (codePoint (s ++ ')' :: u)).bind _ = _
    rw [steady_codePoint hn u]
    rfl
  case h_18 c s =>
    show (if c.isAlpha = true then some (point (c.toNat % 32), s ++ ')' :: u) else none) = _
    split at h
    · next hc => cases h; rw [if_pos hc]
    · cases h
  case h_19 c s _ _ _ _ _ _ _ _ _ _ _ _ _ _ _ _ hcontrol =>
    have hne : c = 'c' → False := by
      rintro rfl
      cases s with
      | nil => cases inClass <;> cases h
      | cons d s => exact hcontrol d s rfl rfl
    rw [List.cons_append, escape.eq_19]
    · split_ifs at h ⊢ <;> cases h <;> rfl
    all_goals first
      | assumption
      | exact fun d t hd _ => hne hd
  all_goals
    cases h
    rfl

theorem steady_classAtom : Steady classAtom := by
  intro s a r h u
  unfold classAtom at h
  split at h
  case h_1 => cases h
  case h_2 s => exact steady_escape true h u
  case h_3 c s hc =>
    cases h
    rw [List.cons_append, classAtom.eq_3 _ _ hc]

/-- The end of a text closes no class. -/
theorem classItems_nil (fuel : Nat) : classItems fuel [] = none := by
  cases fuel <;> rfl

theorem classItems_hyphen (fuel : Nat) : classItems fuel ['-'] = none := by
  cases fuel with
  | zero => rfl
  | succ fuel => show (classItems fuel []).bind _ = none; rw [classItems_nil]; rfl

/-- A member of a class whose first atom has been read: a range if a hyphen and another atom follow,
else the atom. -/
def member (a : ClassItem) : List Char → Option (ClassItem × List Char)
  | '-' :: c :: s =>
    if c = ']' then some (a, '-' :: c :: s)
    else (classAtom (c :: s)).bind fun (b, rest) =>
      match a, b with
      | .range first _, .range last _ =>
        if first ≤ last then some (.range first last, rest) else none
      | _, _ => none
  | s => some (a, s)

theorem classItems_close (n : Nat) (s : List Char) : classItems n (']' :: s) = some ([], s) := by
  cases n <;> rfl

theorem classItems_succ {s : List Char} (hs : ∀ x, s = ']' :: x → False) (n : Nat) :
    classItems (n + 1) s = (classAtom s).bind fun (a, rest) => (member a rest).bind
      fun (item, rest) => (classItems n rest).bind fun (items, rest) =>
        some (item :: items, rest) := by
  rw [classItems.eq_3 _ _ hs]
  cases classAtom s with
  | none => rfl
  | some found =>
    obtain ⟨a, rest⟩ := found
    simp only [Option.bind_eq_bind, Option.bind_some]
    split
    · next c rest' =>
      rw [member]
      by_cases hc : c = ']'
      · rw [if_pos hc, if_pos hc]
        rfl
      · rw [if_neg hc, if_neg hc]
        cases classAtom (c :: rest') with
        | none => rfl
        | some found =>
          obtain ⟨b, rest''⟩ := found
          cases a with
          | named kind negated => rfl
          | range first last =>
            cases b with
            | named kind negated => rfl
            | range first' last' =>
              show (if first ≤ first' then _ else _) =
                Option.bind (if first ≤ first' then _ else _) _
              split <;> rfl
    · next hno =>
      rw [member.eq_2 _ _ hno]
      rfl

theorem member_append {a item : ClassItem} {s r : List Char} (h : member a s = some (item, r))
    (hr : r ≠ []) (hr' : r ≠ ['-']) (u : List Char) :
    member a (s ++ ')' :: u) = some (item, r ++ ')' :: u) := by
  unfold member at h
  split at h
  · next c s =>
    rw [List.cons_append, List.cons_append, member]
    split at h
    · next hc =>
      cases h
      rw [if_pos hc]
      rfl
    · next hc =>
      obtain ⟨⟨b, rest⟩, hb, h⟩ := Option.bind_eq_some_iff.1 h
      have hb' : classAtom (c :: (s ++ ')' :: u)) = some (b, rest ++ ')' :: u) :=
        steady_classAtom hb u
      rw [if_neg hc, hb']
      simp only [Option.bind_some] at h ⊢
      split at h
      · split at h
        · next hle => cases h; rw [if_pos hle]
        · cases h
      · cases h
  · next hno =>
    cases h
    have hno' : ∀ c x, s ++ ')' :: u = '-' :: c :: x → False := by
      intro c x hx
      match s with
      | [] => exact hr rfl
      | [d] =>
        obtain ⟨rfl, -⟩ := List.cons.inj hx
        exact hr' rfl
      | d :: e :: s =>
        rw [List.cons_append, List.cons.injEq] at hx
        exact hno e s (by rw [hx.1])
    rw [member.eq_2 _ _ hno']

/-- A longer text needs no less fuel, and more fuel changes nothing. -/
theorem classItems_append {n : Nat} : ∀ {s is r}, classItems n s = some (is, r) → ∀ m, n ≤ m →
    ∀ u, classItems m (s ++ ')' :: u) = some (is, r ++ ')' :: u) := by
  induction n with
  | zero =>
    intro s is r h m _ u
    by_cases hclose : ∃ x, s = ']' :: x
    · obtain ⟨x, rfl⟩ := hclose
      cases h
      exact classItems_close m _
    · rw [classItems.eq_2 _ fun x hx => hclose ⟨x, hx⟩] at h
      cases h
  | succ n ih =>
    intro s is r h m hm u
    by_cases hclose : ∃ x, s = ']' :: x
    · obtain ⟨x, rfl⟩ := hclose
      rw [classItems_close] at h
      cases h
      exact classItems_close m _
    · have hs : ∀ x, s = ']' :: x → False := fun x hx => hclose ⟨x, hx⟩
      rw [classItems_succ hs] at h
      obtain ⟨⟨a, rest⟩, ha, h⟩ := Option.bind_eq_some_iff.1 h
      obtain ⟨⟨item, rest'⟩, hitem, h⟩ := Option.bind_eq_some_iff.1 h
      obtain ⟨⟨items, rest''⟩, hitems, h⟩ := Option.bind_eq_some_iff.1 h
      cases h
      obtain ⟨m, rfl⟩ := Nat.exists_eq_add_of_le' hm
      have hs' := append_ne_cons (by decide) hs u
      -- the text must go on behind a member, since no class is closed by its end
      have hne : rest' ≠ [] := by
        rintro rfl
        rw [classItems_nil] at hitems
        cases hitems
      have hne' : rest' ≠ ['-'] := by
        rintro rfl
        rw [classItems_hyphen] at hitems
        cases hitems
      show classItems (m + n + 1) _ = _
      rw [classItems_succ hs', steady_classAtom ha u]
      simp only [Option.bind_some]
      rw [member_append hitem hne hne' u]
      simp only [Option.bind_some]
      rw [ih hitems (m + n) (by omega) u]
      rfl

theorem steady_bracketed : Steady bracketed := by
  intro s k r h u
  unfold bracketed at h
  split at h
  · next s =>
    obtain ⟨⟨items, rest⟩, hitems, h⟩ := Option.bind_eq_some_iff.1 h
    cases h
    show (classItems (s ++ ')' :: u).length (s ++ ')' :: u)).bind _ = _
    rw [classItems_append hitems _ (by simp) u]
    rfl
  · next hno =>
    obtain ⟨⟨items, rest⟩, hitems, h⟩ := Option.bind_eq_some_iff.1 h
    cases h
    rw [bracketed.eq_2 _ (append_ne_cons (by decide) hno u),
      classItems_append hitems _ (by simp) u]
    rfl

/-! ## Quantifiers -/

theorem steady_counts : Steady counts := by
  intro s a r h u
  obtain ⟨⟨least, rest⟩, hleast, h⟩ := Option.bind_eq_some_iff.1 h
  show (decimal (s ++ ')' :: u)).bind _ = _
  rw [steady_decimal hleast u]
  simp only [Option.bind_some] at h ⊢
  split at h
  · cases h
    rfl
  · cases h
    rfl
  · next rest hno =>
    obtain ⟨⟨most, rest'⟩, hmost, h⟩ := Option.bind_eq_some_iff.1 h
    rw [List.cons_append]
    split
    · next heq => cases heq
    · next heq => exact (append_ne_cons (by decide) hno u _ (List.cons.inj heq).2).elim
    · next heq =>
      obtain ⟨-, rfl⟩ := List.cons.inj heq
      show (decimal (rest ++ ')' :: u)).bind _ = _
      rw [steady_decimal hmost u]
      simp only [Option.bind_some] at h ⊢
      split at h
      · split at h
        · next hle =>
          cases h
          simp only [List.cons_append]
          rw [if_pos hle]
        · cases h
      · cases h
    · next hne => exact (hne _ rfl).elim
  · cases h

theorem quantified_append (least : Nat) (most : Option Nat) (s u : List Char) :
    quantified least most (s ++ ')' :: u) =
      ((quantified least most s).1, (quantified least most s).2 ++ ')' :: u) := by
  by_cases hs : ∃ x, s = '?' :: x
  · obtain ⟨x, rfl⟩ := hs
    rfl
  · have hs : ∀ x, s = '?' :: x → False := fun x hx => hs ⟨x, hx⟩
    rw [quantified.eq_2 _ _ _ hs, quantified.eq_2 _ _ _ (append_ne_cons (by decide) hs u)]

/-! ## Tokens -/

/-- The first token of a text is still the first with a closing parenthesis behind the text. -/
theorem next_append : Steady next := by
  intro s t r h u
  unfold next at h
  split at h
  case h_4 s hno hno' =>
    cases h
    have hne := append_ne_cons (by decide) hno' u
    rw [List.cons_append, next.eq_4 _ (fun x hx => hne _ hx) hne]
  case h_10 s | h_11 s | h_12 s =>
    have hquantified := Option.some.inj h
    show some (quantified _ _ (s ++ ')' :: u)) = _
    rw [quantified_append, hquantified]
  case h_13 s =>
    obtain ⟨⟨⟨least, most⟩, rest⟩, hcounts, h⟩ := Option.bind_eq_some_iff.1 h
    have hquantified := Option.some.inj h
    show (counts (s ++ ')' :: u)).bind _ = _
    rw [steady_counts hcounts u]
    simp only [Option.bind_some]
    rw [quantified_append, hquantified]
  case h_16 s =>
    obtain ⟨⟨k, rest⟩, hk, h⟩ := Option.bind_eq_some_iff.1 h
    cases h
    show (bracketed (s ++ ')' :: u)).bind _ = _
    rw [steady_bracketed hk u]
    rfl
  case h_17 s =>
    obtain ⟨⟨item, rest⟩, hitem, h⟩ := Option.bind_eq_some_iff.1 h
    cases h
    show (escape false (s ++ ')' :: u)).bind _ = _
    rw [steady_escape false hitem u]
    rfl
  case h_18 c s _ _ hopen _ _ _ _ _ _ _ _ _ _ _ _ _ =>
    cases h
    rw [List.cons_append, next.eq_18]
    all_goals first
      | assumption
      | exact fun _ hc _ => hopen hc
  all_goals
    cases h
    try rfl

/-- More fuel than the scan needs changes nothing. -/
theorem scanWith_mono {n : Nat} : ∀ {s ts}, scanWith n s = some ts → ∀ m, n ≤ m →
    scanWith m s = some ts := by
  induction n with
  | zero =>
    intro s ts h m _
    cases s with
    | nil => cases h; cases m <;> rfl
    | cons c s => cases h
  | succ n ih =>
    intro s ts h m hm
    obtain ⟨m, rfl⟩ := Nat.exists_eq_add_of_le' hm
    cases s with
    | nil => cases h; rfl
    | cons c s =>
      obtain ⟨⟨t, rest⟩, ht, h⟩ := Option.bind_eq_some_iff.1 h
      obtain ⟨us, hus, h⟩ := Option.bind_eq_some_iff.1 h
      cases h
      rw [← Nat.add_assoc, scanWith, ht]
      simp only [Option.bind_eq_bind, Option.bind_some]
      rw [ih hus (m + n) (by omega)]
      rfl

theorem scanWith_append {n k : Nat} {u : List Char} {us : List Token}
    (hu : scanWith k (')' :: u) = some us) : ∀ {s ts}, scanWith n s = some ts →
    scanWith (n + k) (s ++ ')' :: u) = some (ts ++ us) := by
  induction n with
  | zero =>
    intro s ts h
    cases s with
    | nil =>
      cases h
      rw [Nat.zero_add]
      exact hu
    | cons c s => cases h
  | succ n ih =>
    intro s ts h
    cases s with
    | nil =>
      cases h
      exact scanWith_mono hu _ (by omega)
    | cons c s =>
      obtain ⟨⟨t, rest⟩, ht, h⟩ := Option.bind_eq_some_iff.1 h
      obtain ⟨ts', hts, h⟩ := Option.bind_eq_some_iff.1 h
      cases h
      have ht' : next (c :: (s ++ ')' :: u)) = some (t, rest ++ ')' :: u) := next_append ht u
      rw [Nat.succ_add, List.cons_append, scanWith, ht']
      simp only [Option.bind_eq_bind, Option.bind_some]
      rw [ih hts]
      rfl

/-- The tokens of a text come before the tokens of what starts with a closing parenthesis. -/
theorem scan_append {s u : List Char} {ts us : List Token} (hs : scan s = some ts)
    (hu : scan (')' :: u) = some us) : scan (s ++ ')' :: u) = some (ts ++ us) := by
  rw [scan, List.length_append]
  exact scanWith_append hu hs

/-! ## Counts -/

/-- The token is no quantifier with a bound below its least count. -/
def countsInOrder : Token → Bool
  | .quantifier least most _ => most.all (least ≤ ·)
  | _ => true

theorem counts_inOrder {s r : List Char} {least : Nat} {most : Option Nat}
    (h : counts s = some ((least, most), r)) : most.all (least ≤ ·) = true := by
  obtain ⟨⟨n, rest⟩, -, h⟩ := Option.bind_eq_some_iff.1 h
  simp only at h
  split at h
  · cases h
    simp
  · cases h
    rfl
  · obtain ⟨⟨m, rest'⟩, -, h⟩ := Option.bind_eq_some_iff.1 h
    simp only at h
    split at h
    · split at h
      · next hle =>
        cases h
        simpa using hle
      · cases h
    · cases h
  · cases h

theorem countsInOrder_of_quantified {least : Nat} {most : Option Nat} {s r : List Char} {t : Token}
    (hq : quantified least most s = (t, r)) (h : most.all (least ≤ ·) = true) :
    t.countsInOrder = true := by
  unfold quantified at hq
  split at hq <;> cases hq <;> exact h

theorem countsInOrder_of_next {s r : List Char} {t : Token} (h : next s = some (t, r)) :
    t.countsInOrder = true := by
  unfold next at h
  split at h
  case h_10 s | h_11 s | h_12 s =>
    exact countsInOrder_of_quantified (Option.some.inj h) (by decide)
  case h_13 s =>
    obtain ⟨⟨⟨least, most⟩, rest⟩, hcounts, h⟩ := Option.bind_eq_some_iff.1 h
    exact countsInOrder_of_quantified (Option.some.inj h) (counts_inOrder hcounts)
  case h_16 s =>
    obtain ⟨⟨k, rest⟩, -, h⟩ := Option.bind_eq_some_iff.1 h
    cases h
    rfl
  case h_17 s =>
    obtain ⟨⟨item, rest⟩, -, h⟩ := Option.bind_eq_some_iff.1 h
    cases h
    rfl
  all_goals
    cases h
    try rfl

theorem countsInOrder_of_scanWith {n : Nat} : ∀ {s ts}, scanWith n s = some ts →
    ∀ t ∈ ts, t.countsInOrder = true := by
  induction n with
  | zero =>
    intro s ts h
    cases s with
    | nil => cases h; simp
    | cons c s => cases h
  | succ n ih =>
    intro s ts h
    cases s with
    | nil => cases h; simp
    | cons c s =>
      obtain ⟨⟨t, rest⟩, ht, h⟩ := Option.bind_eq_some_iff.1 h
      obtain ⟨us, hus, h⟩ := Option.bind_eq_some_iff.1 h
      cases h
      simpa using ⟨countsInOrder_of_next ht, ih hus⟩

/-- No quantifier that is read has a bound below its least count. -/
theorem countsInOrder_of_scan {s : List Char} {ts : List Token} (h : scan s = some ts) :
    ∀ t ∈ ts, t.countsInOrder = true :=
  countsInOrder_of_scanWith h

end Phrasebook.Token
