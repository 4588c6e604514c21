import Phrasebook.Proofs.Rule.Recognition
import Phrasebook.Proofs.Snippet.Request
import Phrasebook.Translation

/-!
# What the snippets write

A snippet fills the frame of its request: numbers are written by their values and texts in quotes. A
capture stands on one line, so each hole can be read back.

Results:
* `exists_written_of_render`: the code of a standard rule is the frame of what its captures ask for.
* `written_of_translate`: so the code of an instruction is the frame of what it asks for, and what
  fills a hole stays in it.
-/

namespace Phrasebook

open Phrasebook.Text Source

/-! ## Captures -/

theorem oneLine_of_holds {w : List Char} (h : Slot.text.Holds w) : OneLine w := by
  intro c hc
  have hend : isLineEnd c = false := Slot.not_lineEnd_of_admits (h.2 c hc)
  constructor
  · rintro rfl
    exact absurd hend (by decide)
  · rintro rfl
    exact absurd hend (by decide)

theorem integerOf_of_holds {s : String} (h : Slot.number.Holds s.toList) (shown : String) :
    Snippet.integerOf s shown = .ok (decimalValue s.toList : Int) := by
  rw [Snippet.integerOf, Integer.ofSource?_of_digits h]

theorem integer_of_holds {s : String} (h : Slot.number.Holds s.toList) :
    Snippet.integer s = .ok (decimalValue s.toList : Int) :=
  integerOf_of_holds h _

/-- The left side of a comparison is what the capture stands for. -/
theorem operandOf_of_ofCapture? {c : Capture} {o : Snippet.Operand}
    (h : Snippet.Operand.ofCapture? c = .ok o) : o = operandOf c.text ∧ IsOperand o := by
  have hdigits : (!c.text.toList.isEmpty && c.text.toList.all isDigit) = true ↔
      AllDigits c.text.toList := by
    simp [AllDigits]
  rw [Snippet.Operand.ofCapture?] at h
  split at h
  · next hd =>
    rw [hdigits] at hd
    rw [integer_of_holds hd] at h
    cases h
    exact ⟨by rw [operandOf, if_pos hd], Int.natCast_nonneg _⟩
  · next hd =>
    rw [hdigits] at hd
    split at h
    · next hn =>
      cases h
      exact ⟨by rw [operandOf, if_neg hd], (Bool.and_eq_true_iff.1 hn).1⟩
    · cases h

/-! ## Holes -/

theorem readsBack_text {s : String} (h : Slot.text.Holds s.toList) :
    ReadsBack text (Quoted.quote s) s :=
  fun rest _ => text_quote (oneLine_of_holds h) rest

theorem readsBack_valueOf {token : List Char} (h : OneLine token) :
    ReadsBack value (valueOf token).render (valueOf token) :=
  value_render fun c hc => h c (mem_of_mem_chars_valueOf hc)

theorem readsBack_pairOf {piece : List Char} (h : OneLine piece) :
    ReadsBack pair (pairOf piece).render (pairOf piece) :=
  pair_render (fun c hc => h c (mem_of_mem_key_pairOf hc))
    fun c hc => h c (mem_of_mem_value_pairOf hc)

/-- The items of a one-line text between commas are read back, if what follows is neither a digit
nor a further item. -/
theorem items_splitAt {α : Type} {item : Reader α} {write : α → String} {of : List Char → α}
    (hof : ∀ piece, OneLine piece → ReadsBack item (write (of piece)) (of piece)) {s : List Char}
    (hs : OneLine s) {rest : List Char} (hr : NoDigit rest) (hend : words ", " rest = none) :
    items item ((", ".intercalate (((splitAt ',' s).map of).map write)).toList ++ rest) =
      some ((splitAt ',' s).map of, rest) := by
  refine items_intercalate (by simpa using splitAt_ne_nil ',' s) ?_ hr hend
  intro a ha
  obtain ⟨piece, hpiece, rfl⟩ := List.mem_map.1 ha
  exact hof piece fun c hc => hs c (mem_of_mem_splitAt hpiece hc)

/-! ## Snippets -/

section Snippets

variable {a b c : Capture} {catalog : List CatalogEntry} {code : String}

theorem written_fixed {w : String} (h : Snippet.render [] catalog (.fixed w) = .ok code) :
    Written [.words w] code.toList := by
  obtain rfl := Except.ok.inj h
  exact .last w

theorem written_help (h : Snippet.render [] catalog .help = .ok code) :
    Written [.words (Snippet.helpText catalog)] code.toList := by
  obtain rfl := Except.ok.inj h
  exact .last _

theorem written_printRange (ha : Slot.number.Holds a.text.toList)
    (hb : Slot.number.Holds b.text.toList)
    (h : Snippet.render [a, b] catalog .printRange = .ok code) :
    Written (Request.printRange (decimalValue a.text.toList) (decimalValue b.text.toList)).frame
      code.toList := by
  simp only [Snippet.render, Snippet.captureAt, List.getElem?_cons_zero, List.getElem?_cons_succ,
    bind, Except.bind, integer_of_holds ha, integerOf_of_holds hb] at h
  obtain rfl := Except.ok.inj h
  show Written _ ("for i in range(" ++ _ ++ ", " ++ _ ++ "):\n    print(i)").toList
  simp only [String.toList_append, List.append_assoc]
  exact .words _ (.readsBack (integer_numeral _) (noDigit_cons rfl _)
    (.words _ (.readsBack (integer_numeral _) (noDigit_cons rfl _) (.last _))))

theorem written_printText (ha : Slot.text.Holds a.text.toList)
    (h : Snippet.render [a] catalog .printText = .ok code) :
    Written (Request.printText a.text).frame code.toList := by
  obtain rfl := Except.ok.inj h
  show Written _ ("print(" ++ Quoted.quote a.text ++ ")").toList
  simp only [String.toList_append, List.append_assoc]
  exact .words _ (.readsBack (readsBack_text ha) (noDigit_cons rfl _) (.last _))

theorem written_arithmetic {op : Operation} (ha : Operation.ofKeyword? a.text = some op)
    (hb : Slot.number.Holds b.text.toList) (hc : Slot.number.Holds c.text.toList)
    (h : Snippet.render [a, b, c] catalog .arithmetic = .ok code) :
    Written (Request.arithmetic op (decimalValue b.text.toList)
      (decimalValue c.text.toList)).frame code.toList := by
  simp only [Snippet.render, Snippet.captureAt, List.getElem?_cons_zero, List.getElem?_cons_succ,
    bind, Except.bind, ha, integer_of_holds hb, integer_of_holds hc] at h
  obtain rfl := Except.ok.inj h
  have hblanks : (" " ++ op.symbol ++ " ").toList = ' ' :: (op.symbol.toList ++ [' ']) := by
    rw [String.toList_append, String.toList_append]
    rfl
  have hcode : ∀ l r : String, ("print(" ++ l ++ " " ++ op.symbol ++ " " ++ r ++ ")").toList =
      "print(".toList ++ (l.toList ++ ((" " ++ op.symbol ++ " ").toList ++
        (r.toList ++ ")".toList))) := by
    intro l r
    simp only [String.toList_append, List.append_assoc]
  show Written _ ("print(" ++ _ ++ " " ++ op.symbol ++ " " ++ _ ++ ")").toList
  rw [hcode]
  refine .words _ (.readsBack (integer_numeral _) ?_
    (.words _ (.readsBack (integer_numeral _) (noDigit_cons rfl _) (.last _))))
  rw [hblanks]
  exact noDigit_cons rfl _

theorem written_createList (ha : Slot.text.Holds a.text.toList)
    (h : Snippet.render [a] catalog .createList = .ok code) :
    Written (Request.createList (valuesOf a.text)).frame code.toList := by
  obtain rfl := Except.ok.inj h
  show Written _ ("my_list = [" ++ ", ".intercalate ((listItems a.text).map Literal.render) ++
    "]").toList
  rw [listItems_eq_valuesOf]
  simp only [String.toList_append, List.append_assoc]
  refine .words _ (.hole ?_ (.last _))
  rintro rest (rfl | rfl)
  · exact items_splitAt (fun _ => readsBack_valueOf) (oneLine_of_holds ha) noDigit_nil rfl
  · exact items_splitAt (fun _ => readsBack_valueOf) (oneLine_of_holds ha) (noDigit_cons rfl _) rfl

theorem written_appendToList (ha : Slot.text.Holds a.text.toList)
    (h : Snippet.render [a] catalog .appendToList = .ok code) :
    Written (Request.appendList (valueOf a.text.toList)).frame code.toList := by
  obtain rfl := Except.ok.inj h
  have hvalue := infer_eq_valueOf a.text.toList
  rw [String.ofList_toList] at hvalue
  show Written _ ("my_list.append(" ++ (Literal.infer a.text).render ++ ")").toList
  rw [hvalue]
  simp only [String.toList_append, List.append_assoc]
  exact .words _ (.readsBack (readsBack_valueOf (oneLine_of_holds ha)) (noDigit_cons rfl _)
    (.last _))

theorem written_square (ha : Slot.number.Holds a.text.toList)
    (h : Snippet.render [a] catalog .square = .ok code) :
    Written (Request.square (decimalValue a.text.toList)).frame code.toList := by
  simp only [Snippet.render, Snippet.captureAt, List.getElem?_cons_zero, bind, Except.bind,
    integer_of_holds ha] at h
  obtain rfl := Except.ok.inj h
  show Written _ ("print(" ++ _ ++ " ** 2)").toList
  simp only [String.toList_append, List.append_assoc]
  exact .words _ (.readsBack (integer_numeral _) (noDigit_cons rfl _) (.last _))

theorem written_createString (ha : Slot.text.Holds a.text.toList)
    (h : Snippet.render [a] catalog .createString = .ok code) :
    Written (Request.createString a.text).frame code.toList := by
  obtain rfl := Except.ok.inj h
  show Written _ ("my_string = " ++ Quoted.quote a.text).toList
  rw [String.toList_append, ← List.append_nil (Quoted.quote a.text).toList]
  exact .words _ (.readsBack (readsBack_text ha) noDigit_nil rfl)

theorem written_createDictionary (ha : Slot.text.Holds a.text.toList)
    (h : Snippet.render [a] catalog .createDictionary = .ok code) :
    Written (Request.createDictionary (pairsOf a.text)).frame code.toList := by
  simp only [Snippet.render, Snippet.captureAt, List.getElem?_cons_zero, bind, Except.bind] at h
  split at h
  · cases h
  · next pairs hpairs =>
    obtain rfl := dictionaryPairs_eq_pairsOf hpairs
    obtain rfl := Except.ok.inj h
    show Written _ ("my_dict = \x7b" ++ ", ".intercalate ((pairsOf a.text).map Pair.render) ++
      "\x7d").toList
    simp only [String.toList_append, List.append_assoc]
    refine .words _ (.hole ?_ (.last _))
    rintro rest (rfl | rfl)
    · exact items_splitAt (fun _ => readsBack_pairOf) (oneLine_of_holds ha) noDigit_nil rfl
    · exact items_splitAt (fun _ => readsBack_pairOf) (oneLine_of_holds ha) (noDigit_cons rfl _) rfl

theorem written_conditional (hb : Slot.number.Holds b.text.toList)
    (hc : Slot.text.Holds c.text.toList)
    (h : Snippet.render [a, b, c] catalog .conditional = .ok code) :
    Written (Request.conditional (operandOf a.text) (decimalValue b.text.toList) c.text).frame
      code.toList := by
  simp only [Snippet.render, Snippet.captureAt, List.getElem?_cons_zero, List.getElem?_cons_succ,
    bind, Except.bind, integer_of_holds hb] at h
  cases ho : Snippet.Operand.ofCapture? a with
  | error e => rw [ho] at h; cases h
  | ok o =>
    rw [ho] at h
    obtain rfl := Except.ok.inj h
    obtain ⟨rfl, ho⟩ := operandOf_of_ofCapture? ho
    show Written _ ("if " ++ _ ++ " == " ++ _ ++ ": print(" ++ Quoted.quote c.text ++ ")").toList
    simp only [String.toList_append, List.append_assoc]
    refine .words _ (.hole ?_ (.words _ (.readsBack (integer_numeral _) (noDigit_cons rfl _)
      (.words _ (.readsBack (readsBack_text hc) (noDigit_cons rfl _) (.last _))))))
    rintro rest (rfl | rfl)
    · exact operand_render ho (by rintro _ ⟨⟩)
    · exact operand_render ho (by rintro _ ⟨⟩; rfl)

theorem written_askInput (ha : Slot.text.Holds a.text.toList)
    (h : Snippet.render [a] catalog .askInput = .ok code) :
    Written (Request.askInput a.text).frame code.toList := by
  obtain rfl := Except.ok.inj h
  show Written _ ("user_input = input(" ++ Quoted.quote a.text ++ ")").toList
  simp only [String.toList_append, List.append_assoc]
  exact .words _ (.readsBack (readsBack_text ha) (noDigit_cons rfl _) (.last _))

end Snippets

/-! ## Rules -/

/-- The slots that the captures of a snippet come from. -/
def Snippet.slots : Snippet → List Slot
  | .fixed _ => []
  | .printRange => [.number, .number]
  | .printText => [.text]
  | .arithmetic => [.keyword, .number, .number]
  | .createList => [.text]
  | .appendToList => [.text]
  | .square => [.number]
  | .createString => [.text]
  | .createDictionary => [.text]
  | .conditional => [.name, .number, .text]
  | .askInput => [.text]
  | .help => []

theorem kinds_templatesOf :
    ∀ d ∈ standardDefinitions, ∀ t ∈ templatesOf d.id, t.kinds = d.snippet.slots := by
  simp [standardDefinitions, templatesOf, standardTemplates, List.lookup_cons, Template.kinds,
    Snippet.slots]

/-- The captures of a standard rule are held by the slots of its snippet. -/
theorem forall₂_holds_of_fit {d : RuleDefinition} (hd : d ∈ standardDefinitions) {s : String}
    {cs : List Capture} (h : Template.Fit (templatesOf d.id) s cs) :
    List.Forall₂ (fun k c => k.Holds c.text.toList) d.snippet.slots cs := by
  obtain ⟨t, ht, hf⟩ := h
  rw [← kinds_templatesOf d hd t ht]
  exact hf.forall₂_holds

theorem exists_ofKeyword?_of_mem {w : String} (h : w.toList ∈ arithmeticKeywords) :
    ∃ op, Operation.ofKeyword? w = some op := by
  have hall : ∀ v ∈ arithmeticKeywords, (Operation.ofKeyword? (String.ofList v)).isSome := by
    decide
  have := hall _ h
  rw [String.ofList_toList] at this
  exact Option.isSome_iff_exists.1 this

/-- The code of a standard rule is the frame of what its captures ask for. -/
theorem exists_written_of_render {d : RuleDefinition} (hd : d ∈ standardDefinitions)
    {cs : List Capture}
    (hcs : List.Forall₂ (fun k c => Slot.Holds k c.text.toList) d.snippet.slots cs) {code : String}
    (h : d.snippet.render cs standardRules.catalog = .ok code) :
    ∃ q, Request.ofCaptures? d.id cs = some q ∧ q.ruleId = d.id ∧ Written q.frame code.toList := by
  -- one case for each rule, in the order of the table
  simp only [standardDefinitions, List.mem_cons, List.not_mem_nil, or_false] at hd
  rcases hd with rfl | rfl | rfl | rfl | rfl | rfl | rfl | rfl | rfl | rfl | rfl | rfl | rfl |
    rfl | rfl | rfl | rfl
  · rcases hcs with _ | ⟨ha, _ | ⟨hb, ⟨⟩⟩⟩
    exact ⟨_, rfl, rfl, written_printRange ha hb h⟩
  · cases hcs
    exact ⟨_, rfl, rfl, written_fixed h⟩
  · cases hcs
    exact ⟨_, rfl, rfl, written_fixed h⟩
  · cases hcs
    exact ⟨_, rfl, rfl, written_fixed h⟩
  · rcases hcs with _ | ⟨ha, ⟨⟩⟩
    exact ⟨_, rfl, rfl, written_printText ha h⟩
  · rcases hcs with _ | ⟨ha, _ | ⟨hb, _ | ⟨hc, ⟨⟩⟩⟩⟩
    obtain ⟨op, hop⟩ := exists_ofKeyword?_of_mem ha
    refine ⟨_, ?_, rfl, written_arithmetic hop hb hc h⟩
    show (Operation.ofKeyword? _).map _ = some _
    rw [hop]
    rfl
  · rcases hcs with _ | ⟨ha, ⟨⟩⟩
    exact ⟨_, rfl, rfl, written_createList ha h⟩
  · rcases hcs with _ | ⟨ha, ⟨⟩⟩
    exact ⟨_, rfl, rfl, written_appendToList ha h⟩
  · cases hcs
    exact ⟨_, rfl, rfl, written_fixed h⟩
  · rcases hcs with _ | ⟨ha, ⟨⟩⟩
    exact ⟨_, rfl, rfl, written_square ha h⟩
  · rcases hcs with _ | ⟨ha, ⟨⟩⟩
    exact ⟨_, rfl, rfl, written_createString ha h⟩
  · cases hcs
    exact ⟨_, rfl, rfl, written_fixed h⟩
  · rcases hcs with _ | ⟨ha, ⟨⟩⟩
    exact ⟨_, rfl, rfl, written_createDictionary ha h⟩
  · rcases hcs with _ | ⟨ha, _ | ⟨hb, _ | ⟨hc, ⟨⟩⟩⟩⟩
    exact ⟨_, rfl, rfl, written_conditional hb hc h⟩
  · cases hcs
    exact ⟨_, rfl, rfl, written_fixed h⟩
  · rcases hcs with _ | ⟨ha, ⟨⟩⟩
    exact ⟨_, rfl, rfl, written_askInput ha h⟩
  · cases hcs
    exact ⟨_, rfl, rfl, written_help h⟩

/-! ## Translations -/

theorem exists_written_of_match? {s : String} {r : Rule} {cs : List Capture} {code : String}
    (hs : standardRules.match? s = some (r, cs))
    (h : r.snippet.render cs standardRules.catalog = .ok code) :
    ∃ q, Request.ofCaptures? r.id cs = some q ∧ q.ruleId = r.id ∧ Written q.frame code.toList := by
  obtain ⟨d, hd, rfl, hfit⟩ := exists_fit_of_match? hs
  exact exists_written_of_render hd (forall₂_holds_of_fit hd hfit) h

/-- Code comes from the rule that the table answers with. -/
theorem exists_render_of_translate {t : RuleTable} {a id code : String}
    (h : t.translate a = .ok (.rendered id code)) : ∃ r cs, t.match? (normalize a) = some (r, cs) ∧
      r.id = id ∧ r.snippet.render cs t.catalog = .ok code := by
  simp only [RuleTable.translate] at h
  split at h
  · cases h
  · cases hm : t.match? (normalize a) with
    | none =>
      rw [hm] at h
      cases h
    | some found =>
      obtain ⟨r, cs⟩ := found
      simp only [hm, RuleTable.translateMatched] at h
      split at h
      · next code' hcode =>
        cases h
        exact ⟨r, cs, rfl, rfl, hcode⟩
      · cases h

/-- The code of an instruction is the frame of what the instruction asks for. A reader takes each
hole completely and returns the values that the captures stand for: texts as they are, numbers by
their values, and the values between the commas of a list or a dictionary in order. -/
theorem written_of_translate {a id code : String}
    (h : standardRules.translate a = .ok (.rendered id code)) :
    ∃ r cs q, standardRules.match? (normalize a) = some (r, cs) ∧ r.id = id ∧
      Request.ofCaptures? id cs = some q ∧ q.ruleId = id ∧ Written q.frame code.toList := by
  obtain ⟨r, cs, hs, rfl, hcode⟩ := exists_render_of_translate h
  obtain ⟨q, hq, hid, hwritten⟩ := exists_written_of_match? hs hcode
  exact ⟨r, cs, q, hs, rfl, hq, hid, hwritten⟩

theorem written_of_translate_list :
    standardRules.translate "Create list 007, \"]\\, -x" =
      .ok (.rendered "create-list" "my_list = [7, \"\\\"]\\\\\", \"-x\"]") ∧
    ∃ r cs q, standardRules.match? (normalize "Create list 007, \"]\\, -x") = some (r, cs) ∧
      r.id = "create-list" ∧ Request.ofCaptures? "create-list" cs = some q ∧
      q.ruleId = "create-list" ∧
      Written q.frame "my_list = [7, \"\\\"]\\\\\", \"-x\"]".toList := by
  have h : standardRules.translate "Create list 007, \"]\\, -x" =
      .ok (.rendered "create-list" "my_list = [7, \"\\\"]\\\\\", \"-x\"]") := by
    rw [standardRules_eq_map]
    decide +kernel
  exact ⟨h, written_of_translate h⟩

end Phrasebook
