import Phrasebook.Proofs.Translation.Comparison

/-!
# Numbers in instructions

The numbers of an instruction can have any size and any zeros in front. In the code they stand as
numerals with the same value; the last number of a range is counted up by one, since the range of
the code leaves its end out.

Results:
* `normalize_eq_self`: a text of settled characters without blanks at its ends is normalized.
* `mem_rangeOf_iff`: a range up to the next number holds the last one.
* `translate_range`, `translate_operation`, `translate_square`: the code for digits.
* `translate_numbers`: what the instructions with numbers are translated to.
-/

namespace Phrasebook

open Phrasebook.Text

/-! ## Normalized texts -/

/-- No character below the capital letters is moved. -/
theorem settled_of_isDigit {c : Char} (h : isDigit c = true) : Settled c := by
  obtain ⟨hlo, hhi⟩ := Integer.toNat_of_isDigit h
  refine settled_of_not_moved ?_ (by omega) fun hmoved => ?_
  · rintro rfl
    exact absurd hhi (by decide)
  · obtain ⟨r, hr, hle, -⟩ := inRanges_eq_true_iff.1 hmoved
    have hfirst : ∀ r ∈ movedRanges, 0x41 ≤ r.1 := by decide +kernel
    have := hfirst r hr
    omega

theorem normalize_eq_self {s : String} (h : ∀ c ∈ s.toList, Settled c)
    (hhead : ∀ c, s.toList.head? = some c → isBlank c = false)
    (hlast : ∀ c, s.toList.getLast? = some c → isBlank c = false) : normalize s = s := by
  have hlower : lower s.toList = s.toList := lowerFrom_of_settled h false
  rw [normalize, hlower, trim_eq_self hhead hlast, String.ofList_toList]

/-- A text that starts with a fixed word and ends with digits is normalized, if it is settled. -/
theorem normalize_of_digits_end {s y : String} {front : List Char}
    (hs : s.toList = front ++ y.toList) (hy : AllDigits y.toList) (hfront : ∀ c ∈ front, Settled c)
    (hhead : ∀ c, front.head? = some c → isBlank c = false) (hne : front ≠ []) :
    normalize s = s := by
  have hlast : y.toList ≠ [] := hy.1
  apply normalize_eq_self
  · intro c hc
    rw [hs] at hc
    rcases List.mem_append.1 hc with hc | hc
    · exact hfront c hc
    · exact settled_of_isDigit (hy.2 c hc)
  · intro c hc
    rw [hs, List.head?_append_of_ne_nil _ hne] at hc
    exact hhead c hc
  · intro c hc
    rw [hs, List.getLast?_append_of_ne_nil _ hlast] at hc
    exact Integer.not_isBlank_of_isDigit (hy.2 c (List.mem_of_getLast? hc))

/-- A text that ends with digits is not empty. -/
theorem append_digits_ne_empty (front : String) {y : String} (hy : AllDigits y.toList) :
    front ++ y ≠ "" := by
  intro h
  have hlist := congrArg String.toList h
  rw [String.toList_append] at hlist
  exact hy.1 (List.append_eq_nil_iff.1 hlist).2

/-- A row of fixed words and digits is normalized if the words are settled. -/
theorem normalize_words_digits {w v x y : String} (hw : ∀ c ∈ w.toList, Settled c)
    (hv : ∀ c ∈ v.toList, Settled c) (hhead : ∀ c, w.toList.head? = some c → isBlank c = false)
    (hne : w.toList ≠ []) (hx : AllDigits x.toList) (hy : AllDigits y.toList) :
    normalize (w ++ x ++ v ++ y) = w ++ x ++ v ++ y := by
  have hs : (w ++ x ++ v ++ y).toList = (w.toList ++ (x.toList ++ v.toList)) ++ y.toList := by simp
  refine normalize_of_digits_end hs hy ?_ ?_ ?_
  · intro c hc
    rcases List.mem_append.1 hc with hc | hc
    · exact hw c hc
    · rcases List.mem_append.1 hc with hc | hc
      · exact settled_of_isDigit (hx.2 c hc)
      · exact hv c hc
  · intro c hc
    rw [List.head?_append_of_ne_nil _ hne] at hc
    exact hhead c hc
  · simp [hne]

/-! ## Code -/

section Code

variable {a b c : Capture} (catalog : List CatalogEntry)

theorem render_printRange (ha : AllDigits a.text.toList) (hb : AllDigits b.text.toList) :
    Snippet.render [a, b] catalog .printRange =
      .ok ("for i in range(" ++ Integer.numeral (decimalValue a.text.toList) ++ ", " ++
        Integer.numeral (decimalValue b.text.toList + 1 : Nat) ++ "):\n    print(i)") := by
  simp only [Snippet.render, Snippet.captureAt, List.getElem?_cons_zero, List.getElem?_cons_succ,
    bind, Except.bind, integer_of_holds ha, integerOf_of_holds hb]
  rfl

theorem render_arithmetic {op : Operation} (ha : Operation.ofKeyword? a.text = some op)
    (hb : AllDigits b.text.toList) (hc : AllDigits c.text.toList) :
    Snippet.render [a, b, c] catalog .arithmetic =
      .ok ("print(" ++ Integer.numeral (decimalValue b.text.toList) ++ " " ++ op.symbol ++ " " ++
        Integer.numeral (decimalValue c.text.toList) ++ ")") := by
  simp only [Snippet.render, Snippet.captureAt, List.getElem?_cons_zero, List.getElem?_cons_succ,
    bind, Except.bind, ha, integer_of_holds hb, integer_of_holds hc]
  rfl

theorem render_square (ha : AllDigits a.text.toList) : Snippet.render [a] catalog .square =
    .ok ("print(" ++ Integer.numeral (decimalValue a.text.toList) ++ " ** 2)") := by
  simp only [Snippet.render, Snippet.captureAt, List.getElem?_cons_zero, bind, Except.bind,
    integer_of_holds ha]
  rfl

end Code

/-! ## Ranges -/

/-- The numbers that a range of the code runs through: those from the first number on, below the
end. -/
def rangeOf (first stop : Nat) : List Nat := List.range' first (stop - first)

theorem mem_rangeOf_iff {first last n : Nat} :
    n ∈ rangeOf first (last + 1) ↔ first ≤ n ∧ n ≤ last := by
  rw [rangeOf, List.mem_range'_1]
  omega

theorem pairwise_rangeOf (first stop : Nat) : (rangeOf first stop).Pairwise (· < ·) :=
  List.pairwise_lt_range'

theorem rangeOf_eq_nil {first last : Nat} (h : last < first) : rangeOf first (last + 1) = [] := by
  have hlength : last + 1 - first = 0 := by omega
  rw [rangeOf, hlength]
  rfl

/-! ## Instructions -/

/-- The range rule stands first, so it answers every instruction that fits it. -/
theorem match?_of_fit_printRange {s : String} {cs : List Capture}
    (hfit : Template.Fit (templatesOf "print-range") s cs) : ∃ d, d.id = "print-range" ∧
      d.snippet = .printRange ∧ standardRules.match? s = some (templateRule d, cs) := by
  obtain ⟨d, ds, hds, hid, hsnippet⟩ : ∃ d ds, standardDefinitions = d :: ds ∧
      d.id = "print-range" ∧ d.snippet = .printRange := ⟨_, _, rfl, rfl, rfl⟩
  have hmem : templateRule d ∈ standardRules := by
    rw [standardRules_eq_map, hds]
    exact List.mem_cons_self
  have haccepts : (templateRule d).trigger.match? s = some cs := by
    rw [match?_eq_some_iff_fit hmem]
    show Template.Fit (templatesOf d.id) s cs
    rw [hid]
    exact hfit
  refine ⟨d, hid, hsnippet, ?_⟩
  rw [RuleTable.match?_eq_some_iff]
  refine ⟨[], ds.map templateRule, ?_, haccepts, by simp⟩
  rw [standardRules_eq_map, hds]
  rfl

/-- A slot that is filled by a string has the string as its capture. -/
theorem fills_string {k : Slot} {x : String} {ps : Template} {o : Nat} {s : List Char}
    {cs : List Capture} (hx : k.Holds x.toList) (h : Fills ps (o + units x.toList) s cs) :
    Fills (.slot k :: ps) o (x.toList ++ s) (⟨x, o⟩ :: cs) := by
  have hslot := Fills.slot hx h
  rwa [String.ofList_toList] at hslot

theorem fills_last_string {k : Slot} {x : String} (hx : k.Holds x.toList) (o : Nat) :
    Fills [.slot k] o x.toList [⟨x, o⟩] := by
  have hslot := fills_slot hx o
  rwa [String.ofList_toList] at hslot

section Instructions

variable {x y : String}

theorem exists_fit_printRange (hx : Slot.number.Holds x.toList) (hy : Slot.number.Holds y.toList) :
    ∃ i j, Template.Fit (templatesOf "print-range") ("print numbers from " ++ x ++ " to " ++ y)
      [⟨x, i⟩, ⟨y, j⟩] := by
  have htemplates : templatesOf "print-range" =
      [[.words "print numbers from ", .slot .number, .words " to ", .slot .number]] := by
    simp [templatesOf, standardTemplates]
  have hlist : ("print numbers from " ++ x ++ " to " ++ y).toList =
      "print numbers from ".toList ++ (x.toList ++ (" to ".toList ++ y.toList)) := by
    simp
  have hfills := Fills.words (w := "print numbers from ") (o := 0)
    (fills_string hx (.words (w := " to ") (fills_last_string hy _)))
  rw [← hlist] at hfills
  rw [htemplates]
  exact ⟨_, _, _, List.mem_singleton_self _, hfills⟩

theorem exists_fit_arithmetic {w : String} (hw : Slot.keyword.Holds w.toList)
    (hx : Slot.number.Holds x.toList) (hy : Slot.number.Holds y.toList) :
    ∃ i j l, Template.Fit (templatesOf "arithmetic") (w ++ " " ++ x ++ " and " ++ y)
      [⟨w, i⟩, ⟨x, j⟩, ⟨y, l⟩] := by
  have htemplates : templatesOf "arithmetic" =
      [[.slot .keyword, .words " ", .slot .number, .words " and ", .slot .number]] := by
    simp [templatesOf, standardTemplates, List.lookup_cons]
  have hlist : (w ++ " " ++ x ++ " and " ++ y).toList =
      w.toList ++ (" ".toList ++ (x.toList ++ (" and ".toList ++ y.toList))) := by
    simp
  have hfills := fills_string (o := 0) hw (.words (w := " ")
    (fills_string hx (.words (w := " and ") (fills_last_string hy _))))
  rw [← hlist] at hfills
  rw [htemplates]
  exact ⟨_, _, _, _, List.mem_singleton_self _, hfills⟩

theorem exists_fit_square (hx : Slot.number.Holds x.toList) :
    ∃ i, Template.Fit (templatesOf "square") ("square " ++ x) [⟨x, i⟩] := by
  have htemplates : templatesOf "square" = [[.words "square ", .slot .number]] := by
    simp [templatesOf, standardTemplates, List.lookup_cons]
  have hfills := Fills.words (w := "square ") (o := 0) (fills_last_string hx _)
  rw [← String.toList_append] at hfills
  rw [htemplates]
  exact ⟨_, _, List.mem_singleton_self _, hfills⟩

theorem translate_range (hx : AllDigits x.toList) (hy : AllDigits y.toList) :
    standardRules.translate ("print numbers from " ++ x ++ " to " ++ y) =
      .ok (.rendered "print-range" ("for i in range(" ++
        Integer.numeral (decimalValue x.toList) ++ ", " ++
        Integer.numeral (decimalValue y.toList + 1 : Nat) ++ "):\n    print(i)")) := by
  have hnormal := normalize_words_digits (w := "print numbers from ") (v := " to ")
    (allSettled_iff.1 (by decide +kernel)) (allSettled_iff.1 (by decide +kernel)) (by simp; decide)
    (by decide) hx hy
  have hne : normalize ("print numbers from " ++ x ++ " to " ++ y) ≠ "" := by
    rw [hnormal]
    exact append_digits_ne_empty _ hy
  obtain ⟨i, j, hfit⟩ := exists_fit_printRange hx hy
  obtain ⟨d, hid, hsnippet, hmatch⟩ := match?_of_fit_printRange hfit
  rw [← hnormal] at hmatch
  rw [translate_of_match hne hmatch, hsnippet, hid,
    render_printRange standardRules.catalog (a := ⟨x, i⟩) hx hy]

theorem translate_operation {w : String} {op : Operation} (hw : Operation.ofKeyword? w = some op)
    (hkeyword : Slot.keyword.Holds w.toList) (hx : AllDigits x.toList) (hy : AllDigits y.toList) :
    standardRules.translate (w ++ " " ++ x ++ " and " ++ y) =
      .ok (.rendered "arithmetic" ("print(" ++ Integer.numeral (decimalValue x.toList) ++ " " ++
        op.symbol ++ " " ++ Integer.numeral (decimalValue y.toList) ++ ")")) := by
  have hkeywords : ∀ v ∈ arithmeticKeywords, allSettled (v ++ " ".toList) = true ∧
      (v ++ " ".toList).head?.all (!isBlank ·) = true := by
    decide +kernel
  obtain ⟨hsettled, hhead⟩ := hkeywords _ hkeyword
  rw [← String.toList_append] at hsettled hhead
  have hnormal := normalize_words_digits (w := w ++ " ") (v := " and ") (allSettled_iff.1 hsettled)
    (allSettled_iff.1 (by decide +kernel)) (by simpa [Option.all_eq_true] using hhead) (by simp)
    hx hy
  have hne : normalize (w ++ " " ++ x ++ " and " ++ y) ≠ "" := by
    rw [hnormal]
    exact append_digits_ne_empty _ hy
  obtain ⟨d, hd, hid, hsnippet⟩ : ∃ d ∈ standardDefinitions, d.id = "arithmetic" ∧
      d.snippet = .arithmetic := by
    simp [standardDefinitions]
  obtain ⟨i, j, l, hfit⟩ := exists_fit_arithmetic hkeyword hx hy
  rw [← hid, ← hnormal] at hfit
  rw [translate_of_fit hd (by rw [hid]; decide) (by rw [hid]; decide) hne hfit, hsnippet, hid,
    render_arithmetic standardRules.catalog (a := ⟨w, i⟩) hw hx hy]

theorem translate_square (hx : AllDigits x.toList) : standardRules.translate ("square " ++ x) =
    .ok (.rendered "square" ("print(" ++ Integer.numeral (decimalValue x.toList) ++ " ** 2)")) := by
  have hnormal : normalize ("square " ++ x) = "square " ++ x :=
    normalize_of_digits_end (String.toList_append) hx (allSettled_iff.1 (by decide +kernel))
      (by simp; decide) (by decide)
  have hne : normalize ("square " ++ x) ≠ "" := by
    rw [hnormal]
    exact append_digits_ne_empty _ hx
  obtain ⟨d, hd, hid, hsnippet⟩ : ∃ d ∈ standardDefinitions, d.id = "square" ∧
      d.snippet = .square := by
    simp [standardDefinitions]
  obtain ⟨i, hfit⟩ := exists_fit_square hx
  rw [← hid, ← hnormal] at hfit
  rw [translate_of_fit hd (by rw [hid]; decide) (by rw [hid]; decide) hne hfit, hsnippet, hid,
    render_square standardRules.catalog (a := ⟨x, i⟩) hx]

/-- A comparison of digits whose message is kept by normalizing. -/
theorem translate_equals {m : String} (hx : AllDigits x.toList) (hy : AllDigits y.toList)
    (hm : Slot.text.Holds m.toList)
    (hnormal : normalize ("if " ++ x ++ " equals " ++ y ++ " then print " ++ m) =
      "if " ++ x ++ " equals " ++ y ++ " then print " ++ m) :
    standardRules.translate ("if " ++ x ++ " equals " ++ y ++ " then print " ++ m) =
      .ok (.rendered "conditional" ("if " ++ Integer.numeral (decimalValue x.toList) ++ " == " ++
        Integer.numeral (decimalValue y.toList) ++ ": print(" ++ Quoted.quote m ++ ")")) := by
  have hname : Slot.name.Holds x.toList := by
    refine ⟨hx.1, fun c hc => ?_⟩
    have hnumber : isNumber c = true := by
      obtain ⟨hlo, hhi⟩ := Integer.toNat_of_isDigit (hx.2 c hc)
      exact inRanges_eq_true_iff.2 ⟨(0x30, 0x39), by decide, hlo, hhi⟩
    simp [Slot.admits, hnumber]
  have hasks : AsksComparison
      (normalize ("if " ++ x ++ " equals " ++ y ++ " then print " ++ m)).toList
      x.toList y.toList m.toList := by
    rw [hnormal]
    exact ⟨by simp, hname, hy, hm⟩
  rw [translate_of_digits hasks hx, comparisonCode, String.ofList_toList]

end Instructions

/-- The words that ask for an operation, with its sign in the code. -/
def operationSigns : List (String × String) :=
  [("add", "+"), ("subtract", "-"), ("multiply", "*"), ("divide", "/")]

theorem exists_operation_of_mem : ∀ k ∈ operationSigns, ∃ op, Operation.ofKeyword? k.1 = some op ∧
    op.symbol = k.2 ∧ Slot.keyword.Holds k.1.toList := by
  have hkeyword : ∀ k ∈ operationSigns, k.1.toList ∈ arithmeticKeywords := by decide
  simp only [operationSigns, List.forall_mem_cons] at hkeyword ⊢
  obtain ⟨hadd, hsubtract, hmultiply, hdivide, -⟩ := hkeyword
  exact ⟨⟨.add, rfl, rfl, hadd⟩, ⟨.subtract, rfl, rfl, hsubtract⟩,
    ⟨.multiply, rfl, rfl, hmultiply⟩, ⟨.divide, rfl, rfl, hdivide⟩, by simp⟩

/-- Digits stand in the code as the numerals of their values. A range of the code runs through the
numbers from the first one of the instruction to the last one, both included, and through none if
the last one is less. -/
theorem translate_numbers {x y : String} (hx : AllDigits x.toList) (hy : AllDigits y.toList) :
    ∃ l r stop, IsNumeral l (decimalValue x.toList) ∧ IsNumeral r (decimalValue y.toList) ∧
      IsNumeral stop (decimalValue y.toList + 1) ∧
      standardRules.translate ("print numbers from " ++ x ++ " to " ++ y) =
        .ok (.rendered "print-range"
          ("for i in range(" ++ l ++ ", " ++ stop ++ "):\n    print(i)")) ∧
      (rangeOf (decimalValue l.toList) (decimalValue stop.toList)).Pairwise (· < ·) ∧
      (∀ n, n ∈ rangeOf (decimalValue l.toList) (decimalValue stop.toList) ↔
        decimalValue x.toList ≤ n ∧ n ≤ decimalValue y.toList) ∧
      (decimalValue y.toList < decimalValue x.toList →
        rangeOf (decimalValue l.toList) (decimalValue stop.toList) = []) ∧
      (∀ k ∈ operationSigns, standardRules.translate (k.1 ++ " " ++ x ++ " and " ++ y) =
        .ok (.rendered "arithmetic" ("print(" ++ l ++ " " ++ k.2 ++ " " ++ r ++ ")"))) ∧
      standardRules.translate ("square " ++ x) =
        .ok (.rendered "square" ("print(" ++ l ++ " ** 2)")) ∧
      ∀ m, Slot.text.Holds m.toList →
        normalize ("if " ++ x ++ " equals " ++ y ++ " then print " ++ m) =
          "if " ++ x ++ " equals " ++ y ++ " then print " ++ m →
        standardRules.translate ("if " ++ x ++ " equals " ++ y ++ " then print " ++ m) =
          .ok (.rendered "conditional"
            ("if " ++ l ++ " == " ++ r ++ ": print(" ++ Quoted.quote m ++ ")")) := by
  have hl := isNumeral_numeral (decimalValue x.toList)
  have hstop := isNumeral_numeral (decimalValue y.toList + 1)
  refine ⟨_, _, _, hl, isNumeral_numeral _, hstop, translate_range hx hy, pairwise_rangeOf _ _, ?_,
    ?_, ?_, translate_square hx, fun m hm hnormal => translate_equals hx hy hm hnormal⟩
  · intro n
    rw [hl.value, hstop.value]
    exact mem_rangeOf_iff
  · intro hless
    rw [hl.value, hstop.value]
    exact rangeOf_eq_nil hless
  · intro k hk
    obtain ⟨op, hop, hsign, hkeyword⟩ := exists_operation_of_mem k hk
    rw [translate_operation hop hkeyword hx hy, hsign]

/-- Zeros in front, and a carry through all the digits. -/
theorem translate_numbers_carry : ∃ l r stop, IsNumeral l 7 ∧ IsNumeral r 999 ∧
    IsNumeral stop 1000 ∧
    standardRules.translate "print numbers from 007 to 0999" =
      .ok (.rendered "print-range" ("for i in range(" ++ l ++ ", " ++ stop ++ "):\n    print(i)")) ∧
    standardRules.translate "divide 007 and 0999" =
      .ok (.rendered "arithmetic" ("print(" ++ l ++ " " ++ "/" ++ " " ++ r ++ ")")) ∧
    standardRules.translate "square 007" =
      .ok (.rendered "square" ("print(" ++ l ++ " ** 2)")) ∧
    standardRules.translate "if 007 equals 0999 then print 'a'" = .ok (.rendered "conditional"
      ("if " ++ l ++ " == " ++ r ++ ": print(" ++ Quoted.quote "'a'" ++ ")")) := by
  have hdivide : "divide" ++ " " ++ "007" ++ " and " ++ "0999" = "divide 007 and 0999" := by decide
  have hif : "if " ++ "007" ++ " equals " ++ "0999" ++ " then print " ++ "'a'" =
      "if 007 equals 0999 then print 'a'" := by
    decide
  obtain ⟨l, r, stop, hl, hr, hstop, hrange, -, -, -, hoperation, hsquare, hequals⟩ :=
    translate_numbers (x := "007") (y := "0999") (by decide) (by decide)
  have hquotient := hoperation ("divide", "/") (by decide)
  have hequal := hequals "'a'" ⟨by decide, List.all_eq_true.1 (by decide)⟩ (by decide +kernel)
  rw [hdivide] at hquotient
  rw [hif] at hequal
  exact ⟨l, r, stop, hl, hr, hstop, hrange, hquotient, hsquare, hequal⟩

end Phrasebook
