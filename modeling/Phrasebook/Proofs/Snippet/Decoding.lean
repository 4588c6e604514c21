import Phrasebook.Proofs.Snippet.Rendering

/-!
# Reading requests off code

The code of an instruction tells what the instruction asks for. `Request.read?` reads it off: the
code starts with the words of one of a few forms, and no form starts with the words of another one.

Results:
* `readForms_append`: among forms that exclude each other, the one that the source starts with
  decides.
* `read?_of_written`: what fills the frame of a request is read as that request.
* `read?_text`: the answer to an instruction tells what it asks for.
* `requested_eq_of_text_eq`: instructions with the same answer ask for the same thing.
-/

namespace Phrasebook

open Phrasebook.Text Source

namespace Request

/-! ## Forms -/

/-- Forms of source: the words that a form starts with, and how the rest is read. -/
abbrev Forms := List (String × (List Char → Option Request))

/-- Reads source by the first form with whose words it starts. -/
def readForms : Forms → List Char → Option Request
  | [], _ => none
  | (w, read) :: forms, s =>
    match words w s with
    | some rest => read rest
    | none => readForms forms s

/-- Reads the end of the source of a request. -/
def ending (w : String) (q : Request) (s : List Char) : Option Request :=
  if s = w.toList then some q else none

/-- No form starts with the words of another one. -/
def Separate (forms : Forms) : Prop :=
  (forms.map (·.1)).Pairwise fun v w => apart v.toList w.toList = true

theorem words_eq_none_of_apart {v w : String} (h : apart v.toList w.toList = true)
    (s : List Char) : words v (w.toList ++ s) = none := by
  rw [words]
  by_contra hne
  obtain ⟨rest, hrest⟩ := Option.ne_none_iff_exists'.1 hne
  rw [List.isPrefixOf?_eq_some_iff_append_eq] at hrest
  exact not_isPrefix_of_apart h ⟨rest, hrest⟩ (List.prefix_append w.toList s)

/-- Among forms that exclude each other, the one that the source starts with decides. -/
theorem readForms_append {forms : Forms} (hp : Separate forms) {w : String}
    {read : List Char → Option Request} (h : (w, read) ∈ forms) (s : List Char) :
    readForms forms (w.toList ++ s) = read s := by
  induction forms with
  | nil => exact absurd h List.not_mem_nil
  | cons p forms ih =>
    rw [Separate, List.map_cons, List.pairwise_cons] at hp
    rcases List.mem_cons.1 h with rfl | h
    · simp only [readForms, words_append]
    · have hhead : words p.1 (w.toList ++ s) = none :=
        words_eq_none_of_apart (hp.1 w (List.mem_map_of_mem h)) s
      simp only [readForms, hhead]
      exact ih hp.2 h

/-! ## The forms of requests -/

def readRange (s : List Char) : Option Request :=
  (integer s).bind fun (first, s) => (words ", " s).bind fun s => (integer s).bind fun (stop, s) =>
    ending "):\n    print(i)" (.printRange first (stop - 1)) s

/-- What can follow the first number that is printed. -/
def operationForms (left : Int) : Forms :=
  (" ** 2)", ending "" (.square left)) ::
    [Operation.add, .subtract, .multiply, .divide].map fun op =>
      (" " ++ op.symbol ++ " ", fun s => (integer s).bind fun (right, s) =>
        ending ")" (.arithmetic op left right) s)

/-- The names that can be printed. -/
def nameForms : Forms :=
  [("my_list)", ending "" .printList), ("my_string)", ending "" .printString),
   ("my_dict)", ending "" .printDictionary)]

def readPrint (s : List Char) : Option Request :=
  if s.head? = some '"' then (text s).bind fun (t, s) => ending ")" (.printText t) s
  else if s.head? = some 'm' then readForms nameForms s
  else (integer s).bind fun (left, s) => readForms (operationForms left) s

def readString (s : List Char) : Option Request :=
  if s.head? = some '"' then (text s).bind fun (t, s) => ending "" (.createString t) s
  else ending "my_string.upper()" .uppercaseString s

def readList (s : List Char) : Option Request :=
  (items value s).bind fun (values, s) => ending "]" (.createList values) s

def readAppend (s : List Char) : Option Request :=
  (value s).bind fun (v, s) => ending ")" (.appendList v) s

def readDictionary (s : List Char) : Option Request :=
  (items pair s).bind fun (pairs, s) => ending "\x7d" (.createDictionary pairs) s

def readCondition (s : List Char) : Option Request :=
  (operand s).bind fun (o, s) => (words " == " s).bind fun s => (integer s).bind fun (n, s) =>
    (words ": print(" s).bind fun s => (text s).bind fun (message, s) =>
      ending ")" (.conditional o n message) s

def readInput (s : List Char) : Option Request :=
  (text s).bind fun (message, s) => ending ")" (.askInput message) s

def readHelp (s : List Char) : Option Request :=
  if Snippet.helpHeader.toList ++ s = (Snippet.helpText standardRules.catalog).toList then
    some .help
  else none

/-- The forms of the code of all requests. -/
def forms : Forms :=
  [("for i in range(", readRange),
   ("for item in my_list:\n    print(item)", ending "" .loopList),
   ("print(", readPrint),
   ("my_list = [", readList),
   ("my_list.append(", readAppend),
   ("my_list.sort()", ending "" .sortList),
   ("my_string = ", readString),
   ("my_dict = \x7b", readDictionary),
   ("if ", readCondition),
   ("user_input = input(", readInput),
   (Snippet.helpHeader, readHelp)]

/-- The request that source is the code of. -/
def read? (s : List Char) : Option Request := readForms forms s

theorem separate_forms : Separate forms := by
  simp [Separate, forms, Snippet.helpHeader, apart, List.isPrefixOf]

theorem separate_nameForms : Separate nameForms := by
  simp [Separate, nameForms, apart, List.isPrefixOf]

theorem separate_operationForms (left : Int) : Separate (operationForms left) := by
  simp [Separate, operationForms, Operation.symbol, apart, List.isPrefixOf]

/-! ## Reading code -/

theorem ending_toList (w : String) (q : Request) : ending w q w.toList = some q :=
  if_pos rfl

theorem head_of_text {s : List Char} {p : String × List Char} (h : text s = some p) :
    s.head? = some '"' := by
  unfold text at h
  split at h
  · rfl
  · cases h

theorem head_of_integer {s : List Char} {p : Int × List Char} (h : integer s = some p) :
    ¬ s.head? = some '"' ∧ ¬ s.head? = some 'm' := by
  unfold integer at h
  split at h
  · exact ⟨by rintro ⟨⟩, by rintro ⟨⟩⟩
  · next hs =>
    obtain ⟨⟨n, rest⟩, hn, -⟩ := Option.map_eq_some_iff.1 h
    have hdigit : ∀ c, s.head? = some c → isDigit c = true := by
      intro c hc
      obtain ⟨t, rfl⟩ := List.head?_eq_some_iff.1 hc
      by_contra hd
      simp [natural, hd] at hn
    constructor
    · intro hc
      exact absurd (hdigit _ hc) (by decide)
    · intro hc
      exact absurd (hdigit _ hc) (by decide)

theorem readPrint_name {w : String} {q : Request} (h : (w, ending "" q) ∈ nameForms) :
    readPrint w.toList = some q := by
  have hhead : ∀ p ∈ nameForms, p.1.toList.head? = some 'm' := by decide
  have hw := hhead _ h
  have hread := readForms_append separate_nameForms h []
  rw [List.append_nil] at hread
  rw [readPrint, if_neg (by rw [hw]; decide), if_pos hw, hread]
  exact ending_toList "" q

theorem readPrint_number {s rest : List Char} {left : Int} (h : integer s = some (left, rest)) :
    readPrint s = readForms (operationForms left) rest := by
  obtain ⟨hquote, hm⟩ := head_of_integer h
  rw [readPrint, if_neg hquote, if_neg hm, h, Option.bind_some]

theorem mem_operationForms (left : Int) (op : Operation) :
    (" " ++ op.symbol ++ " ", fun s => (integer s).bind fun (right, s) =>
      ending ")" (.arithmetic op left right) s) ∈ operationForms left := by
  cases op <;> simp [operationForms]

theorem read?_append {w : String} {read : List Char → Option Request} (h : (w, read) ∈ forms)
    (s : List Char) : read? (w.toList ++ s) = read s :=
  readForms_append separate_forms h s

/-- A fixed code is a form of its own. -/
theorem read?_of_ending {w : String} {q : Request} (h : (w, ending "" q) ∈ forms) :
    read? w.toList = some q := by
  have hread := read?_append h []
  rw [List.append_nil] at hread
  rw [hread]
  exact ending_toList "" q

theorem read?_printRange {first last : Int} {s : List Char}
    (h : Written (printRange first last).frame s) : read? s = some (printRange first last) := by
  obtain ⟨s, rfl, h₁⟩ := h.of_words
  obtain ⟨_, hfirst, h₂⟩ := h₁.of_hole
  obtain ⟨s₂, rfl, h₃⟩ := h₂.of_words
  obtain ⟨_, hlast, h₄⟩ := h₃.of_hole
  obtain rfl := h₄.of_last
  have hmem : ("for i in range(", readRange) ∈ forms := by simp [forms]
  rw [read?_append hmem, readRange]
  simp only [hfirst, hlast, Option.bind_some, words_append, ending_toList, Int.add_sub_cancel]

theorem read?_print (s : List Char) : read? ("print(".toList ++ s) = readPrint s :=
  read?_append (by simp [forms]) s

theorem read?_printText {t : String} {s : List Char} (h : Written (printText t).frame s) :
    read? s = some (printText t) := by
  obtain ⟨s, rfl, h₁⟩ := h.of_words
  obtain ⟨_, htext, h₂⟩ := h₁.of_hole
  obtain rfl := h₂.of_last
  rw [read?_print, readPrint, if_pos (head_of_text htext), htext, Option.bind_some]
  exact ending_toList ")" _

theorem read?_arithmetic {op : Operation} {left right : Int} {s : List Char}
    (h : Written (arithmetic op left right).frame s) :
    read? s = some (arithmetic op left right) := by
  obtain ⟨s, rfl, h₁⟩ := h.of_words
  obtain ⟨_, hleft, h₂⟩ := h₁.of_hole
  obtain ⟨s₂, rfl, h₃⟩ := h₂.of_words
  obtain ⟨_, hright, h₄⟩ := h₃.of_hole
  obtain rfl := h₄.of_last
  rw [read?_print, readPrint_number hleft,
    readForms_append (separate_operationForms left) (mem_operationForms left op), hright,
    Option.bind_some]
  exact ending_toList ")" _

theorem read?_square {n : Int} {s : List Char} (h : Written (square n).frame s) :
    read? s = some (square n) := by
  obtain ⟨s, rfl, h₁⟩ := h.of_words
  obtain ⟨_, hn, h₂⟩ := h₁.of_hole
  obtain ⟨_, rfl, rfl⟩ := h₂.of_words
  have hmem : (" ** 2)", ending "" (square n)) ∈ operationForms n := List.mem_cons_self
  rw [read?_print, readPrint_number hn, readForms_append (separate_operationForms n) hmem]
  exact ending_toList "" _

theorem read?_createList {values : List Literal} {s : List Char}
    (h : Written (createList values).frame s) : read? s = some (createList values) := by
  obtain ⟨s, rfl, h₁⟩ := h.of_words
  obtain ⟨_, hvalues, h₂⟩ := h₁.of_hole
  obtain rfl := h₂.of_last
  have hmem : ("my_list = [", readList) ∈ forms := by simp [forms]
  rw [read?_append hmem, readList, hvalues, Option.bind_some]
  exact ending_toList "]" _

theorem read?_appendList {v : Literal} {s : List Char} (h : Written (appendList v).frame s) :
    read? s = some (appendList v) := by
  obtain ⟨s, rfl, h₁⟩ := h.of_words
  obtain ⟨_, hv, h₂⟩ := h₁.of_hole
  obtain rfl := h₂.of_last
  have hmem : ("my_list.append(", readAppend) ∈ forms := by simp [forms]
  rw [read?_append hmem, readAppend, hv, Option.bind_some]
  exact ending_toList ")" _

theorem read?_string (s : List Char) : read? ("my_string = ".toList ++ s) = readString s :=
  read?_append (by simp [forms]) s

theorem read?_createString {t : String} {s : List Char} (h : Written (createString t).frame s) :
    read? s = some (createString t) := by
  obtain ⟨s, rfl, h₁⟩ := h.of_words
  obtain ⟨_, htext, rfl⟩ := h₁.of_hole
  rw [read?_string, readString, if_pos (head_of_text htext), htext, Option.bind_some]
  exact ending_toList "" _

theorem read?_uppercaseString {s : List Char} (h : Written uppercaseString.frame s) :
    read? s = some uppercaseString := by
  have hs : s = "my_string = ".toList ++ "my_string.upper()".toList := h.of_last
  rw [hs, read?_string, readString, if_neg (by decide)]
  exact ending_toList _ _

theorem read?_createDictionary {pairs : List Pair} {s : List Char}
    (h : Written (createDictionary pairs).frame s) : read? s = some (createDictionary pairs) := by
  obtain ⟨s, rfl, h₁⟩ := h.of_words
  obtain ⟨_, hpairs, h₂⟩ := h₁.of_hole
  obtain rfl := h₂.of_last
  have hmem : ("my_dict = \x7b", readDictionary) ∈ forms := by simp [forms]
  rw [read?_append hmem, readDictionary, hpairs, Option.bind_some]
  exact ending_toList "\x7d" _

theorem read?_conditional {o : Snippet.Operand} {n : Int} {message : String} {s : List Char}
    (h : Written (conditional o n message).frame s) :
    read? s = some (conditional o n message) := by
  obtain ⟨s, rfl, h₁⟩ := h.of_words
  obtain ⟨_, ho, h₂⟩ := h₁.of_hole
  obtain ⟨s₂, rfl, h₃⟩ := h₂.of_words
  obtain ⟨_, hn, h₄⟩ := h₃.of_hole
  obtain ⟨s₃, rfl, h₅⟩ := h₄.of_words
  obtain ⟨_, hmessage, h₆⟩ := h₅.of_hole
  obtain rfl := h₆.of_last
  have hmem : ("if ", readCondition) ∈ forms := by simp [forms]
  rw [read?_append hmem, readCondition]
  simp only [ho, hn, hmessage, Option.bind_some, words_append, ending_toList]

theorem read?_askInput {message : String} {s : List Char}
    (h : Written (askInput message).frame s) : read? s = some (askInput message) := by
  obtain ⟨s, rfl, h₁⟩ := h.of_words
  obtain ⟨_, htext, h₂⟩ := h₁.of_hole
  obtain rfl := h₂.of_last
  have hmem : ("user_input = input(", readInput) ∈ forms := by simp [forms]
  rw [read?_append hmem, readInput, htext, Option.bind_some]
  exact ending_toList ")" _

theorem read?_help {s : List Char} (h : Written help.frame s) : read? s = some help := by
  have hs : s = (Snippet.helpText standardRules.catalog).toList := h.of_last
  have hheader : ∃ rest, s = Snippet.helpHeader.toList ++ rest := by
    rw [hs, Snippet.helpText, String.toList_intercalate, List.map_cons]
    cases standardRules.catalog with
    | nil => exact ⟨[], by simp⟩
    | cons e es =>
      rw [List.map_cons, List.map_cons, List.intercalate_cons_cons, List.append_assoc]
      exact ⟨_, rfl⟩
  obtain ⟨rest, hrest⟩ := hheader
  have hmem : (Snippet.helpHeader, readHelp) ∈ forms := by simp [forms]
  rw [hrest, read?_append hmem, readHelp, if_pos (hrest ▸ hs)]

/-- What fills the frame of a request is read as that request. -/
theorem read?_of_written {q : Request} {s : List Char} (h : Written q.frame s) :
    read? s = some q := by
  cases q with
  | printRange first last => exact read?_printRange h
  | printList =>
    have hs : s = "print(".toList ++ "my_list)".toList := h.of_last
    rw [hs, read?_print]
    exact readPrint_name (by simp [nameForms])
  | printString =>
    have hs : s = "print(".toList ++ "my_string)".toList := h.of_last
    rw [hs, read?_print]
    exact readPrint_name (by simp [nameForms])
  | printDictionary =>
    have hs : s = "print(".toList ++ "my_dict)".toList := h.of_last
    rw [hs, read?_print]
    exact readPrint_name (by simp [nameForms])
  | printText t => exact read?_printText h
  | arithmetic op left right => exact read?_arithmetic h
  | createList values => exact read?_createList h
  | appendList v => exact read?_appendList h
  | sortList =>
    rw [h.of_last]
    exact read?_of_ending (by simp [forms])
  | square n => exact read?_square h
  | createString t => exact read?_createString h
  | uppercaseString => exact read?_uppercaseString h
  | createDictionary pairs => exact read?_createDictionary h
  | conditional o n message => exact read?_conditional h
  | loopList =>
    rw [h.of_last]
    exact read?_of_ending (by simp [forms])
  | askInput message => exact read?_askInput h
  | help => exact read?_help h

end Request

/-! ## Translations -/

/-- What an instruction asks for, if a standard rule accepts it. -/
def requested (instruction : String) : Option Request :=
  (standardRules.match? (normalize instruction)).bind fun (r, cs) => Request.ofCaptures? r.id cs

theorem read?_markers : Request.read? Translation.unrecognizedMarker.toList = none ∧
    Request.read? Translation.emptyMarker.toList = none := by
  constructor <;> rfl

theorem requested_of_translate {a id code : String}
    (h : standardRules.translate a = .ok (.rendered id code)) : ∃ q, requested a = some q ∧
      q.ruleId = id ∧ Request.read? code.toList = some q := by
  obtain ⟨r, cs, hs, rfl, hcode⟩ := exists_render_of_translate h
  obtain ⟨q, hq, hid, hwritten⟩ := exists_written_of_match? hs hcode
  refine ⟨q, ?_, hid, Request.read?_of_written hwritten⟩
  rw [requested, hs, Option.bind_some]
  exact hq

theorem requested_of_not_rendered {a : String} {x : Translation}
    (h : standardRules.translate a = .ok x) (hx : ∀ id code, x ≠ .rendered id code) :
    requested a = none := by
  have hempty : standardRules.match? "" = none := by
    rw [standardRules_eq_map]
    decide +kernel
  simp only [RuleTable.translate] at h
  split at h
  · next hn => rw [requested, hn, hempty, Option.bind_none]
  · cases hm : standardRules.match? (normalize a) with
    | none => rw [requested, hm, Option.bind_none]
    | some found =>
      rw [hm, RuleTable.translateMatched] at h
      split at h
      · cases h
        exact absurd rfl (hx _ _)
      · cases h

/-- The answer to an instruction tells what it asks for. -/
theorem read?_text {a : String} {x : Translation} (h : standardRules.translate a = .ok x) :
    Request.read? x.text.toList = requested a := by
  cases x with
  | rendered id code =>
    obtain ⟨q, hq, -, hread⟩ := requested_of_translate h
    rw [hq]
    exact hread
  | unrecognized =>
    rw [requested_of_not_rendered h (by simp)]
    exact read?_markers.1
  | empty =>
    rw [requested_of_not_rendered h (by simp)]
    exact read?_markers.2

/-- The rule that a translation comes from. -/
def Translation.ruleId? : Translation → Option String
  | .rendered id _ => some id
  | .unrecognized => none
  | .empty => none

/-- The request belongs to the rule that rendered the code. -/
theorem map_ruleId_requested {a : String} {x : Translation}
    (h : standardRules.translate a = .ok x) : (requested a).map Request.ruleId = x.ruleId? := by
  cases x with
  | rendered id code =>
    obtain ⟨q, hq, rfl, -⟩ := requested_of_translate h
    rw [hq]
    rfl
  | unrecognized =>
    rw [requested_of_not_rendered h (by simp)]
    rfl
  | empty =>
    rw [requested_of_not_rendered h (by simp)]
    rfl

theorem Translation.ext_text {x y : Translation} (ht : x.text = y.text)
    (hr : x.ruleId? = y.ruleId?) : x = y := by
  have hmarkers : unrecognizedMarker ≠ emptyMarker := by decide
  cases x <;> cases y <;> simp_all [text, ruleId?]

/-- Instructions with the same answer ask for the same thing: they have the same kind of answer and
the same rule and argument values. No code is one of the two markers. -/
theorem requested_eq_of_text_eq {a b : String} {x y : Translation}
    (ha : standardRules.translate a = .ok x) (hb : standardRules.translate b = .ok y)
    (h : x.text = y.text) :
    x = y ∧ requested a = requested b ∧ (requested a).map Request.ruleId = x.ruleId? ∧
      ∀ id code, x = .rendered id code →
        code ≠ Translation.unrecognizedMarker ∧ code ≠ Translation.emptyMarker := by
  have hreq : requested a = requested b := by rw [← read?_text ha, h, read?_text hb]
  have hrule : x.ruleId? = y.ruleId? := by
    rw [← map_ruleId_requested ha, hreq, map_ruleId_requested hb]
  refine ⟨Translation.ext_text h hrule, hreq, map_ruleId_requested ha, ?_⟩
  rintro id code rfl
  obtain ⟨q, -, -, hread⟩ := requested_of_translate ha
  constructor
  · rintro rfl
    rw [read?_markers.1] at hread
    cases hread
  · rintro rfl
    rw [read?_markers.2] at hread
    cases hread

theorem requested_eq_of_text_eq_list :
    standardRules.translate "create list 1, \"a" =
      .ok (.rendered "create-list" "my_list = [1, \"\\\"a\"]") ∧
    standardRules.translate "CREATE LIST 001,\"A " =
      .ok (.rendered "create-list" "my_list = [1, \"\\\"a\"]") ∧
    requested "create list 1, \"a" = requested "CREATE LIST 001,\"A " := by
  have ha : standardRules.translate "create list 1, \"a" =
      .ok (.rendered "create-list" "my_list = [1, \"\\\"a\"]") := by
    rw [standardRules_eq_map]
    decide +kernel
  have hb : standardRules.translate "CREATE LIST 001,\"A " =
      .ok (.rendered "create-list" "my_list = [1, \"\\\"a\"]") := by
    rw [standardRules_eq_map]
    decide +kernel
  exact ⟨ha, hb, (requested_eq_of_text_eq ha hb rfl).2.1⟩

end Phrasebook
