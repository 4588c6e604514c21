import Phrasebook.Proofs.Text.Ranges
import Phrasebook.Proofs.Text.Trim
import Phrasebook.Text.Lowercase

/-!
# Lower case and blanks

Lower-casing moves no character twice, and it neither moves a blank nor makes one. Blanks at the
ends of a text give no context to a sigma: none of them is cased, so it does not matter that one of
them, U+FEFF, is case-ignorable.

Results:
* `lower_lower`: a text in lower case stays as it is.
* `lower_trim`: lower-casing and trimming can change places.
-/

namespace Phrasebook.Text

/-! ## The table -/

/-- The range that the members of a run lie in. -/
def Run.range (r : Run) : Nat × Nat := (r.first, r.last)

namespace Shift

/-- Where a member of the run goes. -/
def imageOf (s : Shift) (n : Nat) : Nat := s.image + (n - s.run.first)

/-- Where the last member of the run goes. -/
def lastImage (s : Shift) : Nat := s.image + (s.run.last - s.run.first)

/-- No member of the run goes into the range. -/
def misses (s : Shift) (r : Nat × Nat) : Bool := s.lastImage.blt r.1 || r.2.blt s.image

/-- The images of the run are all odd and the members of the other one even, or the other way. -/
def takesTurns (s : Shift) (r : Run) : Bool :=
  (s.run.stride == 2 || s.run.first == s.run.last) && r.stride == 2 &&
    (s.image + r.first) % 2 == 1

/-- No member of the run goes into a run of an ascending table. The runs in front of the images are
passed over, and the walk ends behind the images. -/
def missesRuns (s : Shift) : List Shift → Bool
  | [] => true
  | t :: ts =>
    bif t.run.last.blt s.image then s.missesRuns ts
    else s.lastImage.blt t.run.first || (s.takesTurns t.run && s.missesRuns ts)

section

variable {s : Shift} {n : Nat}

theorem imageOf_mem (hn : s.run.contains n = true) :
    s.image ≤ s.imageOf n ∧ s.imageOf n ≤ s.lastImage := by
  simp only [Run.contains, Bool.and_eq_true, decide_eq_true_eq] at hn
  simp only [imageOf, lastImage]
  omega

theorem not_mem_of_misses {r : Nat × Nat} (h : s.misses r = true)
    (hn : s.run.contains n = true) : ¬ (r.1 ≤ s.imageOf n ∧ s.imageOf n ≤ r.2) := by
  have hmem := imageOf_mem hn
  simp only [misses, Bool.or_eq_true, Nat.blt_eq] at h
  omega

theorem not_contains_of_takesTurns {r : Run} (h : s.takesTurns r = true)
    (hn : s.run.contains n = true) : r.contains (s.imageOf n) = false := by
  rw [Bool.eq_false_iff]
  intro hr
  simp only [takesTurns, Bool.and_eq_true, Bool.or_eq_true, beq_iff_eq] at h
  obtain ⟨⟨hstride, htwo⟩, hodd⟩ := h
  simp only [Run.contains, htwo, Bool.and_eq_true, decide_eq_true_eq, beq_iff_eq] at hr hn
  simp only [imageOf] at hr
  rcases hstride with hstride | hsingle
  · rw [hstride] at hn
    omega
  · omega

end

end Shift

theorem inRanges_of_contains {ts : List Shift} {t : Shift} (ht : t ∈ ts) {c : Char}
    (h : t.run.contains c.toNat = true) : inRanges (ts.map (·.run.range)) c = true := by
  rw [inRanges_eq_true_iff]
  simp only [Run.contains, Bool.and_eq_true, decide_eq_true_eq] at h
  exact ⟨_, List.mem_map_of_mem ht, h.1⟩

/-- A character to which one is moved is in no run of an ascending table that is missed. -/
theorem Shift.not_contains_of_missesRuns {s : Shift} {n : Nat} (hn : s.run.contains n = true)
    {c : Char} (hc : c.toNat = s.imageOf n) {ts : List Shift}
    (hts : Ascending (ts.map (·.run.range)) = true) (h : s.missesRuns ts = true) :
    ∀ t ∈ ts, t.run.contains c.toNat = false := by
  have hmem := imageOf_mem hn
  induction ts with
  | nil => exact fun t ht => absurd ht List.not_mem_nil
  | cons t ts ih =>
    have htail := ih (ascending_tail hts)
    rw [missesRuns] at h
    cases hfront : t.run.last.blt s.image with
    | true =>
      rw [hfront, cond_true] at h
      rw [List.forall_mem_cons]
      refine ⟨Bool.eq_false_iff.2 fun hcontains => ?_, htail h⟩
      rw [Nat.blt_eq] at hfront
      simp only [Run.contains, Bool.and_eq_true, decide_eq_true_eq] at hcontains
      omega
    | false =>
      rw [hfront, cond_false, Bool.or_eq_true, Bool.and_eq_true, Nat.blt_eq] at h
      rcases h with hbehind | ⟨hturns, hrest⟩
      · refine fun u hu => Bool.eq_false_iff.2 fun hcontains => ?_
        have hle : t.run.first ≤ c.toNat := le_of_inRanges hts (inRanges_of_contains hu hcontains)
        omega
      · rw [List.forall_mem_cons]
        exact ⟨hc ▸ not_contains_of_takesTurns hturns hn, htail hrest⟩

/-- The blanks, as a table. -/
def blankRanges : List (Nat × Nat) :=
  [(0x09, 0x0D), (0x20, 0x20), (0xA0, 0xA0), (0x1680, 0x1680), (0x2000, 0x200A), (0x2028, 0x2029),
   (0x202F, 0x202F), (0x205F, 0x205F), (0x3000, 0x3000), (0xFEFF, 0xFEFF)]

/-- The ranges that the moved characters lie in. -/
def movedRanges : List (Nat × Nat) := lowerShifts.map (·.run.range)

/-- The characters to which one is moved stay where they are. They exist, are no blanks, and are
neither the capital I with a dot nor the capital sigma. -/
theorem misses_lowerShifts :
    lowerShifts.all (fun s => s.missesRuns lowerShifts && blankRanges.all s.misses &&
      s.misses (0x130, 0x130) && s.misses (0x3A3, 0x3A3) && s.misses (0xD800, 0xDFFF) &&
      s.lastImage.blt 0x110000) = true := by
  decide +kernel

/-- Blanks are neither cased nor moved. -/
theorem apart_blankRanges :
    (disjointRanges 1000 blankRanges casedRanges && disjointRanges 1000 blankRanges movedRanges &&
      Ascending blankRanges && Ascending casedRanges && Ascending movedRanges) = true := by
  decide +kernel

theorem isBlank_iff {c : Char} : isBlank c = true ↔ inRanges blankRanges c = true := by
  simp only [isBlank, inRanges, blankRanges, List.any_cons, List.any_nil, Bool.or_eq_true,
    Bool.and_eq_true, decide_eq_true_eq, beq_iff_eq, Bool.false_eq_true, or_false]
  omega

theorem not_of_isBlank {c : Char} (h : isBlank c = true) :
    isCased c = false ∧ ¬ inRanges movedRanges c = true := by
  have htables := apart_blankRanges
  simp only [Bool.and_eq_true] at htables
  obtain ⟨⟨⟨⟨hcased, hmoved⟩, hblanks⟩, hcasedRanges⟩, hmovedRanges⟩ := htables
  rw [isBlank_iff] at h
  exact ⟨Bool.eq_false_iff.2 (not_inRanges_of_disjoint hcased hblanks hcasedRanges h),
    not_inRanges_of_disjoint hmoved hblanks hmovedRanges h⟩

/-! ## Single characters -/

/-- Lower-casing leaves the character where it is, in every context. -/
def Settled (c : Char) : Prop := c ≠ 'Σ' ∧ lowerChar c = [c]

/-- The cases of lower-casing a character: the capital I with a dot, a member of a run, and any
other character. -/
theorem lowerChar_cases (c : Char) :
    (c.toNat = 0x130 ∧ lowerChar c = ['i', Char.ofNat 0x307]) ∨
    (∃ s ∈ lowerShifts, s.run.contains c.toNat = true ∧
      lowerChar c = [Char.ofNat (s.imageOf c.toNat)]) ∨
    (c.toNat ≠ 0x130 ∧ (∀ s ∈ lowerShifts, s.run.contains c.toNat = false) ∧
      lowerChar c = [c]) := by
  rw [lowerChar]
  split
  · next hdot => exact .inl ⟨hdot, rfl⟩
  · next hne =>
    split
    · next s hs =>
      have hcontains : s.run.contains c.toNat = true := by simpa using List.find?_some hs
      exact .inr (.inl ⟨s, List.mem_of_find?_eq_some hs, hcontains, rfl⟩)
    · next hnone =>
      refine .inr (.inr ⟨hne, fun s hs => ?_, rfl⟩)
      simpa using List.find?_eq_none.1 hnone s hs

theorem settled_of_not_contains {c : Char} (hsigma : c ≠ 'Σ') (hdot : c.toNat ≠ 0x130)
    (h : ∀ s ∈ lowerShifts, s.run.contains c.toNat = false) : Settled c := by
  refine ⟨hsigma, ?_⟩
  rcases lowerChar_cases c with ⟨hc, -⟩ | ⟨s, hs, hcontains, -⟩ | ⟨-, -, hself⟩
  · exact absurd hc hdot
  · rw [h s hs] at hcontains
    cases hcontains
  · exact hself

theorem settled_of_not_moved {c : Char} (hsigma : c ≠ 'Σ') (hdot : c.toNat ≠ 0x130)
    (h : ¬ inRanges movedRanges c = true) : Settled c :=
  settled_of_not_contains hsigma hdot fun _ hs =>
    Bool.eq_false_iff.2 fun hcontains => h (inRanges_of_contains hs hcontains)

theorem settled_of_isBlank {c : Char} (h : isBlank c = true) : Settled c := by
  refine settled_of_not_moved ?_ ?_ (not_of_isBlank h).2
  · rintro rfl
    exact absurd h (by decide)
  · intro hdot
    simp [isBlank, hdot] at h

/-- The characters that take the place of the capital I with a dot and of the capital sigma. -/
def specialImages : List Char := ['i', Char.ofNat 0x307, 'σ', 'ς']

theorem settled_of_mem_specialImages {c : Char} (h : c ∈ specialImages) :
    Settled c ∧ isBlank c = false := by
  have hall : specialImages.all (fun c =>
      c != 'Σ' && c.toNat != 0x130 && !inRanges movedRanges c && !isBlank c) = true := by
    decide +kernel
  have hc := List.all_eq_true.1 hall c h
  simp only [Bool.and_eq_true, bne_iff_ne, Bool.not_eq_true'] at hc
  obtain ⟨⟨⟨hsigma, hdot⟩, hmoved⟩, hblank⟩ := hc
  exact ⟨settled_of_not_moved hsigma hdot (Bool.eq_false_iff.1 hmoved), hblank⟩

/-- The character to which a member of a run is moved exists. -/
theorem toNat_image {s : Shift} (hs : s ∈ lowerShifts) {n : Nat} (hn : s.run.contains n = true) :
    (Char.ofNat (s.imageOf n)).toNat = s.imageOf n := by
  have h := List.all_eq_true.1 misses_lowerShifts s hs
  simp only [Bool.and_eq_true, Nat.blt_eq] at h
  obtain ⟨⟨-, hsurrogates⟩, hlast⟩ := h
  have hmem := Shift.imageOf_mem hn
  have hsurrogates := Shift.not_mem_of_misses hsurrogates hn
  have hvalid : (s.imageOf n).isValidChar := by
    rw [Nat.isValidChar]
    omega
  rw [Char.ofNat, dif_pos hvalid]
  rfl

/-- The character to which a member of a run is moved is settled and no blank. -/
theorem settled_image {s : Shift} (hs : s ∈ lowerShifts) {n : Nat}
    (hn : s.run.contains n = true) :
    Settled (Char.ofNat (s.imageOf n)) ∧ isBlank (Char.ofNat (s.imageOf n)) = false := by
  have hnat := toNat_image hs hn
  have h := List.all_eq_true.1 misses_lowerShifts s hs
  simp only [Bool.and_eq_true, List.all_eq_true] at h
  obtain ⟨⟨⟨⟨⟨hruns, hblanks⟩, hdot⟩, hsigma⟩, -⟩, -⟩ := h
  have htables := apart_blankRanges
  simp only [Bool.and_eq_true] at htables
  have hdot := Shift.not_mem_of_misses hdot hn
  have hsigma := Shift.not_mem_of_misses hsigma hn
  constructor
  · refine settled_of_not_contains (fun hc => ?_) (by omega)
      (Shift.not_contains_of_missesRuns hn hnat htables.2 hruns)
    have : s.imageOf n = 0x3A3 := by
      rw [← hnat, hc]
      rfl
    omega
  · rw [Bool.eq_false_iff]
    intro hblank
    obtain ⟨r, hr, hrange⟩ := inRanges_eq_true_iff.1 (isBlank_iff.1 hblank)
    rw [hnat] at hrange
    exact Shift.not_mem_of_misses (hblanks r hr) hn hrange

/-- The characters of a lower-case form are settled. -/
theorem settled_of_mem_lowerChar {c d : Char} (hc : c ≠ 'Σ') (h : d ∈ lowerChar c) :
    Settled d := by
  rcases lowerChar_cases c with ⟨-, hdot⟩ | ⟨s, hs, hcontains, himage⟩ | ⟨-, -, hself⟩
  · rw [hdot] at h
    exact (settled_of_mem_specialImages (List.mem_append_left ['σ', 'ς'] h)).1
  · rw [himage, List.mem_singleton] at h
    exact h ▸ (settled_image hs hcontains).1
  · rw [hself, List.mem_singleton] at h
    exact h ▸ ⟨hc, hself⟩

theorem not_isBlank_of_mem_lowerChar {c d : Char} (hc : isBlank c = false)
    (h : d ∈ lowerChar c) : isBlank d = false := by
  rcases lowerChar_cases c with ⟨-, hdot⟩ | ⟨s, hs, hcontains, himage⟩ | ⟨-, -, hself⟩
  · rw [hdot] at h
    exact (settled_of_mem_specialImages (List.mem_append_left ['σ', 'ς'] h)).2
  · rw [himage, List.mem_singleton] at h
    exact h ▸ (settled_image hs hcontains).2
  · rw [hself, List.mem_singleton] at h
    exact h ▸ hc

/-! ## Texts -/

theorem lowerChar_ne_nil (c : Char) : lowerChar c ≠ [] := by
  rcases lowerChar_cases c with ⟨-, h⟩ | ⟨s, -, -, h⟩ | ⟨-, -, h⟩
  · simp [h]
  · simp [h]
  · simp [h]

/-- What lower-casing makes of the first character of a text. -/
theorem exists_lowerFrom_cons (before : Bool) (c : Char) (s : List Char) :
    ∃ out, lowerFrom before (c :: s) = out ++ lowerFrom (casedAfter before c) s ∧ out ≠ [] ∧
      (∀ d ∈ out, Settled d) ∧ (isBlank c = false → ∀ d ∈ out, isBlank d = false) := by
  refine ⟨_, rfl, ?_⟩
  split
  · have hmem : (if before && !startsCased s then 'ς' else 'σ') ∈ specialImages := by
      split
      · decide
      · decide
    have hspecial := settled_of_mem_specialImages hmem
    exact ⟨List.cons_ne_nil _ _, fun d hd => List.mem_singleton.1 hd ▸ hspecial.1,
      fun _ d hd => List.mem_singleton.1 hd ▸ hspecial.2⟩
  · next hne =>
    exact ⟨lowerChar_ne_nil c, fun d => settled_of_mem_lowerChar hne,
      fun hc d => not_isBlank_of_mem_lowerChar hc⟩

theorem lowerFrom_of_settled {s : List Char} (h : ∀ c ∈ s, Settled c) (before : Bool) :
    lowerFrom before s = s := by
  induction s generalizing before with
  | nil => rfl
  | cons c s ih =>
    obtain ⟨hc, hs⟩ := List.forall_mem_cons.1 h
    rw [lowerFrom, if_neg hc.1, hc.2, ih hs]
    rfl

theorem settled_of_mem_lowerFrom {s : List Char} {before : Bool} {d : Char}
    (h : d ∈ lowerFrom before s) : Settled d := by
  induction s generalizing before with
  | nil => cases h
  | cons c s ih =>
    obtain ⟨out, heq, -, hsettled, -⟩ := exists_lowerFrom_cons before c s
    rw [heq] at h
    rcases List.mem_append.1 h with h | h
    · exact hsettled d h
    · exact ih h

/-- A text in lower case stays as it is. -/
theorem lower_lower (s : List Char) : lower (lower s) = lower s :=
  lowerFrom_of_settled (fun _ => settled_of_mem_lowerFrom) false

theorem lowerFrom_eq_nil_iff {s : List Char} {before : Bool} :
    lowerFrom before s = [] ↔ s = [] := by
  cases s with
  | nil => simp [lowerFrom]
  | cons c s =>
    obtain ⟨out, heq, hne, -⟩ := exists_lowerFrom_cons before c s
    simp [heq, hne]

/-- A text that does not start with a blank does not do so in lower case. -/
theorem head_lowerFrom {s : List Char} (hs : ∀ c, s.head? = some c → isBlank c = false)
    {before : Bool} {d : Char} (h : (lowerFrom before s).head? = some d) : isBlank d = false := by
  cases s with
  | nil => cases h
  | cons c s =>
    obtain ⟨out, heq, hne, -, hblank⟩ := exists_lowerFrom_cons before c s
    rw [heq, List.head?_append_of_ne_nil _ hne] at h
    exact hblank (hs c rfl) d (List.mem_of_head? h)

/-- A text that does not end with a blank does not do so in lower case. -/
theorem getLast_lowerFrom {s : List Char} (hs : ∀ c, s.getLast? = some c → isBlank c = false)
    {before : Bool} {d : Char} (h : (lowerFrom before s).getLast? = some d) :
    isBlank d = false := by
  induction s generalizing before with
  | nil => cases h
  | cons c s ih =>
    obtain ⟨out, heq, -, -, hblank⟩ := exists_lowerFrom_cons before c s
    rw [heq] at h
    cases s with
    | nil =>
      rw [lowerFrom, List.append_nil] at h
      exact hblank (hs c rfl) d (List.mem_of_getLast? h)
    | cons e s =>
      have hne : lowerFrom (casedAfter before c) (e :: s) ≠ [] := by
        simp [lowerFrom_eq_nil_iff]
      rw [List.getLast?_append_of_ne_nil _ hne] at h
      exact ih (fun e' he' => hs e' (by rwa [List.getLast?_cons_cons])) h

/-! ## Blanks around a text -/

/-- Blanks give no context to what comes after them. -/
theorem lowerFrom_append_of_blank {start : List Char} (h : ∀ c ∈ start, isBlank c = true)
    (s : List Char) : lowerFrom false (start ++ s) = start ++ lowerFrom false s := by
  induction start with
  | nil => rfl
  | cons c start ih =>
    obtain ⟨hc, hstart⟩ := List.forall_mem_cons.1 h
    have hsettled := settled_of_isBlank hc
    have hcased : casedAfter false c = false := by
      rw [casedAfter, (not_of_isBlank hc).1, ite_self]
    rw [List.cons_append, lowerFrom, if_neg hsettled.1, hsettled.2, hcased, ih hstart]
    rfl

/-- Blanks give no context to what comes before them. -/
theorem startsCased_append_of_blank {ending : List Char} (h : ∀ c ∈ ending, isBlank c = true)
    (s : List Char) : startsCased (s ++ ending) = startsCased s := by
  induction s with
  | nil =>
    rw [List.nil_append, startsCased]
    cases hhead : (ending.dropWhile isCaseIgnorable).head? with
    | none => rfl
    | some c =>
      have hmem : c ∈ ending := (List.dropWhile_sublist _).subset (List.mem_of_head? hhead)
      simp [(not_of_isBlank (h c hmem)).1, startsCased]
  | cons c s ih =>
    by_cases hc : isCaseIgnorable c = true
    · simpa [startsCased, hc] using ih
    · simp [startsCased, hc]

theorem lowerFrom_append_blank {ending : List Char} (h : ∀ c ∈ ending, isBlank c = true)
    (before : Bool) (s : List Char) :
    lowerFrom before (s ++ ending) = lowerFrom before s ++ ending := by
  induction s generalizing before with
  | nil => exact lowerFrom_of_settled (fun c hc => settled_of_isBlank (h c hc)) before
  | cons c s ih =>
    rw [List.cons_append, lowerFrom, lowerFrom, startsCased_append_of_blank h, ih,
      List.append_assoc]

/-- Lower-casing and trimming can change places. -/
theorem lower_trim (s : List Char) : lower (trim s) = trim (lower s) := by
  obtain ⟨ending, hending, hs⟩ := exists_append_trim s
  have hstart : ∀ c ∈ s.takeWhile isBlank, isBlank c = true := fun c => List.mem_takeWhile_imp
  have hlower : lower s = s.takeWhile isBlank ++ (lower (trim s) ++ ending) := by
    conv_lhs => rw [hs]
    rw [lower, lowerFrom_append_of_blank hstart, lowerFrom_append_blank hending]
    rfl
  rw [hlower]
  exact (trim_append_append hstart hending (fun c => head_lowerFrom fun _ => head_trim)
    fun c => getLast_lowerFrom fun _ => getLast_trimEnd).symm

end Phrasebook.Text
