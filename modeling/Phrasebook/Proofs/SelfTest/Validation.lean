import Phrasebook.Proofs.SelfTest.Checker
import Phrasebook.SelfTest.Listing

/-!
# Validation of case files

With a validator that checks the schema of case files, a value is accepted exactly if it is an array
of cases, and it is then answered as it is. Every other value has at least one diagnostic, the
diagnostics come in the order of the items, and the path of each leads to an item that is no case.
The diagnostics are never taken for cases.

Results:
* `allows_itemSchema_iff`, `allows_caseSchema_iff`: the schema allows the cases.
* `violates_caseSchema_array_iff`, `path_of_violates_itemSchema`: where the violations are.
* `isAbout_of_mem`, `pairwise_inOrder`, `IsAbout.unique`: where the diagnostics point.
* `isCaseList_answerOf_iff`: cases and diagnostics are told apart.
* `validate_and_load`: validation and loading.
-/

namespace Phrasebook.SelfTest

open Phrasebook.Json (Members)
open Phrasebook.Text (Points points)

/-! ## Cases -/

/-- The item is an object with exactly the two members of a case, both texts, of which the expected
one is not empty. -/
def IsCase (item : Json Points) : Prop :=
  ∃ (ms : Members Points) (instruction expected : Points), item = .object ms ∧ expected ≠ [] ∧
    ∀ key, ms.get? key = Members.get?
      [(points "instruction", .string instruction), (points "expected", .string expected)] key

theorem get?_instruction (a b : Json Points) :
    Members.get? [(points "instruction", a), (points "expected", b)] (points instructionKey) =
      some a := rfl

theorem get?_expected (a b : Json Points) :
    Members.get? [(points "instruction", a), (points "expected", b)] (points expectedKey) =
      some b := by
  simp [Members.get?, expectedKey, Text.points_inj]

theorem get?_other (a b : Json Points) {key : Points} (hi : points instructionKey ≠ key)
    (he : points expectedKey ≠ key) :
    Members.get? [(points "instruction", a), (points "expected", b)] key = none := by
  refine Members.get?_eq_none_iff.2 fun m hm => ?_
  rcases List.mem_cons.1 hm with rfl | hm
  · exact hi
  · rw [List.mem_singleton.1 hm]
    exact he

theorem allows_instructionSchema_iff {data : Json Points} :
    Allows instructionSchema data ↔ ∃ s, data = .string s := by
  rw [allows_iff]
  cases data <;> simp [instructionSchema, typeName]

theorem allows_expectedSchema_iff {data : Json Points} :
    Allows expectedSchema data ↔ ∃ s, data = .string s ∧ s ≠ [] := by
  rw [allows_iff]
  cases data <;> simp [expectedSchema, typeName, Nat.one_le_iff_ne_zero]

/-- The schema of a case allows an object with the keys of a case and values as they are there. -/
theorem allows_itemSchema_object_iff {ms : Members Points} :
    Allows itemSchema (.object ms) ↔
      ((∃ instruction, ms.get? (points instructionKey) = some (.string instruction)) ∧
        ∃ expected, ms.get? (points expectedKey) = some (.string expected) ∧ expected ≠ []) ∧
      ∀ key ∈ ms.map (·.1), points instructionKey = key ∨ points expectedKey = key := by
  rw [allows_iff]
  constructor
  · rintro ⟨-, -, hobject, -⟩
    obtain ⟨hrequired, hclosed, hvalues⟩ := hobject ms rfl
    obtain ⟨i, hi⟩ := Option.ne_none_iff_exists'.1 (hrequired instructionKey (by simp [itemSchema]))
    obtain ⟨e, he⟩ := Option.ne_none_iff_exists'.1 (hrequired expectedKey (by simp [itemSchema]))
    have hinstruction := hvalues (instructionKey, instructionSchema) (by simp [itemSchema]) i hi
    have hexpected := hvalues (expectedKey, expectedSchema) (by simp [itemSchema]) e he
    obtain ⟨instruction, rfl⟩ := allows_instructionSchema_iff.1 hinstruction
    obtain ⟨expected, rfl, hne⟩ := allows_expectedSchema_iff.1 hexpected
    refine ⟨⟨⟨instruction, hi⟩, expected, he, hne⟩, fun key hkey => ?_⟩
    simpa [itemSchema] using hclosed rfl key hkey
  · rintro ⟨⟨⟨instruction, hi⟩, expected, he, hne⟩, hkeys⟩
    refine ⟨by simp [itemSchema, typeName], by simp, ?_, by simp⟩
    rintro _ ⟨⟩
    refine ⟨by simp [itemSchema, hi, he], fun _ key hkey => ?_, ?_⟩
    · simpa [itemSchema] using hkeys key hkey
    · simp [itemSchema, hi, he, hne, allows_instructionSchema_iff, allows_expectedSchema_iff]

/-- The schema of a case allows the cases. -/
theorem allows_itemSchema_iff {item : Json Points} : Allows itemSchema item ↔ IsCase item := by
  cases item with
  | object ms =>
    rw [allows_itemSchema_object_iff]
    constructor
    · rintro ⟨⟨⟨instruction, hi⟩, expected, he, hne⟩, hkeys⟩
      refine ⟨ms, instruction, expected, rfl, hne, fun key => ?_⟩
      by_cases hki : points instructionKey = key
      · rw [← hki, hi, get?_instruction]
      by_cases hke : points expectedKey = key
      · rw [← hke, he, get?_expected]
      rw [get?_other _ _ hki hke]
      refine Members.get?_eq_none_iff.2 fun m hm hkey => ?_
      rcases hkeys key (List.mem_map.2 ⟨m, hm, hkey⟩) with h | h
      · exact hki h
      · exact hke h
    · rintro ⟨_, instruction, expected, ⟨⟩, hne, hget⟩
      refine ⟨⟨⟨instruction, (hget _).trans (get?_instruction _ _)⟩, expected,
        (hget _).trans (get?_expected _ _), hne⟩, fun key hkey => ?_⟩
      by_contra hother
      rw [not_or] at hother
      have hnone := (hget key).trans (get?_other _ _ hother.1 hother.2)
      obtain ⟨m, hm, heq⟩ := List.mem_map.1 hkey
      exact Members.get?_eq_none_iff.1 hnone m hm heq
  | _ =>
    rw [allows_iff]
    simp [itemSchema, typeName, IsCase]

/-- The schema of case files allows the lists of cases. -/
theorem allows_caseSchema_iff {data : Json Points} :
    Allows caseSchema data ↔ ∃ items, data = .array items ∧ ∀ item ∈ items, IsCase item := by
  rw [allows_iff]
  cases data <;> simp [caseSchema, typeName, allows_itemSchema_iff]

/-! ## Where the violations are -/

section

variable {path : String} {v : Violation}

/-- What is no array violates the schema of case files in one way. -/
theorem violates_caseSchema_iff {data : Json Points} (h : ∀ items, data ≠ .array items) :
    Violates caseSchema data path v ↔ path = "" ∧ v = .type "array" := by
  constructor
  · intro hv
    cases hv with
    | type hname =>
      obtain rfl := Option.some.inj hname
      exact ⟨rfl, rfl⟩
    | minLength hlimit => cases hlimit
    | required hkey => cases hkey
    | additionalProperties hclosed => cases hclosed
    | properties hp => cases hp
    | items => exact absurd rfl (h _)
  · rintro ⟨rfl, rfl⟩
    refine .type rfl ?_
    cases data with
    | array items => exact absurd rfl (h items)
    | _ => simp [typeName]

/-- An array violates the schema of case files where an item violates that of a case. -/
theorem violates_caseSchema_array_iff {items : List (Json Points)} :
    Violates caseSchema (.array items) path v ↔
      ∃ (i : Nat) (item : Json Points) (rest : String), items[i]? = some item ∧
        path = "/" ++ toString i ++ rest ∧ Violates itemSchema item rest v := by
  constructor
  · intro hv
    cases hv with
    | type hname hdata =>
      obtain rfl := Option.some.inj hname
      exact absurd rfl hdata
    | items hsub hitem hv =>
      obtain rfl := Option.some.inj hsub
      exact ⟨_, _, _, hitem, rfl, hv⟩
  · rintro ⟨i, item, rest, hitem, rfl, hv⟩
    exact .items rfl hitem hv

theorem path_of_leaf {schema : Schema} (hproperties : schema.properties = [])
    (hitems : schema.items = none) {data : Json Points} (h : Violates schema data path v) :
    path = "" := by
  cases h with
  | properties hp =>
    rw [hproperties] at hp
    cases hp
  | items hsub =>
    rw [hitems] at hsub
    cases hsub
  | _ => rfl

/-- The violations of an item are at the item itself or at the value of a key of a case. -/
theorem path_of_violates_itemSchema {item : Json Points} (h : Violates itemSchema item path v) :
    path = "" ∨ ∃ key ∈ ["instruction", "expected"], path = "/" ++ key := by
  cases h with
  | @properties _ _ p _ rest _ hp _ hv =>
    right
    simp only [itemSchema, List.mem_cons, List.not_mem_nil, or_false] at hp
    rcases hp with rfl | rfl
    · obtain rfl : rest = "" := path_of_leaf rfl rfl hv
      exact ⟨"instruction", by simp, by decide⟩
    · obtain rfl : rest = "" := path_of_leaf rfl rfl hv
      exact ⟨"expected", by simp, by decide⟩
  | items hsub => cases hsub
  | _ => exact .inl rfl

end

/-! ## Where the diagnostics point -/

/-- The diagnostic is one of a case file, and names the path. -/
def PointsTo (d : Diagnostic) (path : String) : Prop :=
  d.code = "N103" ∧ ∃ reason, d.message = "Invalid case file entry at " ++ path ++ ": " ++ reason

/-- The diagnostic names an item or one of its members. -/
def IsAbout (i : Nat) (d : Diagnostic) : Prop :=
  PointsTo d s!"/{i}" ∨ ∃ key ∈ ["instruction", "expected"], PointsTo d s!"/{i}/{key}"

/-- The first diagnostic is about no later item than the second. -/
def InOrder (d e : Diagnostic) : Prop := ∀ i k, IsAbout i d → IsAbout k e → i ≤ k

theorem pointsTo_diagnostic (e : SchemaError) :
    PointsTo e.diagnostic (if e.instancePath = "" then "/" else e.instancePath) :=
  ⟨rfl, e.message.getD e.violation.keyword, rfl⟩

/-- The index in the message of a diagnostic ends where its digits end. -/
theorem IsAbout.message {i : Nat} {d : Diagnostic} (h : IsAbout i d) : ∃ rest, NoDigit rest ∧
    d.message.toList = "Invalid case file entry at /".toList ++ (Nat.toDigits 10 i ++ rest) := by
  obtain ⟨-, reason, hmessage⟩ | ⟨key, -, -, reason, hmessage⟩ := h
  · refine ⟨':' :: ' ' :: reason.toList, by rintro _ ⟨⟩; rfl, ?_⟩
    simp [hmessage, String.toList_append, toString, Nat.toList_repr]
  · refine ⟨'/' :: (key.toList ++ ':' :: ' ' :: reason.toList), by rintro _ ⟨⟩; rfl, ?_⟩
    simp [hmessage, String.toList_append, toString, Nat.toList_repr]

/-- A diagnostic is about one item only. -/
theorem IsAbout.unique {i k : Nat} {d : Diagnostic} (hi : IsAbout i d) (hk : IsAbout k d) :
    i = k := by
  obtain ⟨rest, hrest, hmessage⟩ := hi.message
  obtain ⟨rest', hrest', hmessage'⟩ := hk.message
  exact eq_of_toDigits_append hrest hrest'
    (List.append_cancel_left (hmessage.symm.trans hmessage'))

/-- An error at an item or at the value of a key of a case gives a diagnostic about the item. -/
theorem isAbout_diagnostic {i : Nat} {item : Json Points} {rest : String} {e : SchemaError}
    (hv : Violates itemSchema item rest e.violation)
    (hpath : e.instancePath = "/" ++ toString i ++ rest) : IsAbout i e.diagnostic := by
  have hpoints := pointsTo_diagnostic e
  have hne : e.instancePath ≠ "" := by
    rw [hpath]
    simp
  rw [if_neg hne, hpath] at hpoints
  rcases path_of_violates_itemSchema hv with rfl | ⟨key, hkey, rfl⟩
  · rw [String.append_empty] at hpoints
    exact .inl hpoints
  · rw [← String.append_assoc] at hpoints
    exact .inr ⟨key, hkey, hpoints⟩

section

variable {validator : Validator} (h : Checks caseSchema validator) {items : List (Json Points)}

include h

/-- An error of an array is about an item that is no case. -/
theorem isAbout_of_mem {e : SchemaError} (he : e ∈ (validator (.array items)).reported) :
    ∃ i item, items[i]? = some item ∧ ¬ IsCase item ∧ Within i e.instancePath ∧
      IsAbout i e.diagnostic := by
  have hv := (h.mem_reported_iff _ _ _).1 ⟨e, he, rfl, rfl⟩
  obtain ⟨i, item, rest, hitem, hpath, hv⟩ := violates_caseSchema_array_iff.1 hv
  refine ⟨i, item, hitem, fun hcase => allows_itemSchema_iff.2 hcase _ _ hv, ?_,
    isAbout_diagnostic hv hpath⟩
  rw [hpath]
  exact hv.within

/-- There is an error about an item that is no case. -/
theorem exists_isAbout {i : Nat} {item : Json Points} (hitem : items[i]? = some item)
    (hcase : ¬ IsCase item) :
    ∃ e ∈ (validator (.array items)).reported, IsAbout i e.diagnostic := by
  rw [← allows_itemSchema_iff] at hcase
  obtain ⟨rest, v, hv⟩ : ∃ rest v, Violates itemSchema item rest v := by
    simpa [Allows] using hcase
  obtain ⟨e, he, hpath, rfl⟩ := (h.mem_reported_iff _ _ _).2
    (violates_caseSchema_array_iff.2 ⟨i, item, rest, hitem, rfl, hv⟩)
  exact ⟨e, he, isAbout_diagnostic hv hpath⟩

/-- The diagnostics of an array come in the order of the items. -/
theorem pairwise_inOrder :
    ((validator (.array items)).reported.map SchemaError.diagnostic).Pairwise InOrder := by
  rw [List.pairwise_map]
  refine (h.pairwise_reported items).imp_of_mem fun he he' hle i k hi hk => ?_
  obtain ⟨i', -, -, -, hwithin, habout⟩ := isAbout_of_mem h he
  obtain ⟨k', -, -, -, hwithin', habout'⟩ := isAbout_of_mem h he'
  rw [hi.unique habout, hk.unique habout']
  exact hle _ _ hwithin hwithin'

/-- What is no array has one error. -/
theorem reported_of_not_array {data : Json Points} (hdata : ∀ items, data ≠ .array items) :
    ∃ e, (validator data).reported = [e] ∧ e.instancePath = "" := by
  have hmem := fun path v => (h.mem_reported_iff data path v).trans (violates_caseSchema_iff hdata)
  have hsame : ∀ e ∈ (validator data).reported,
      e.instancePath = "" ∧ e.violation = .type "array" := fun e he =>
    (hmem _ _).1 ⟨e, he, rfl, rfl⟩
  obtain ⟨e, he, -⟩ := (hmem "" (.type "array")).2 ⟨rfl, rfl⟩
  have honce := h.nodup_reported data
  cases herrors : (validator data).reported with
  | nil =>
    rw [herrors] at he
    cases he
  | cons first rest =>
    rw [herrors] at hsame honce
    obtain ⟨hpath, hviolation⟩ := hsame first List.mem_cons_self
    refine ⟨first, ?_, hpath⟩
    cases rest with
    | nil => rfl
    | cons second rest =>
      obtain ⟨hpath', hviolation'⟩ := hsame second (List.mem_cons_of_mem _ List.mem_cons_self)
      simp [hpath, hpath', hviolation, hviolation'] at honce

end

/-! ## Lists of cases and of diagnostics -/

theorem hasMember_of_isCase {item : Json Points} (h : IsCase item) :
    hasMember instructionKey item = true := by
  obtain ⟨ms, instruction, expected, rfl, -, hget⟩ := h
  simp only [hasMember, hget, get?_instruction, Option.isSome_some]

theorem not_hasMember_toJson (d : Diagnostic) :
    hasMember instructionKey d.toJson.points = false := by
  simp [Diagnostic.toJson, Json.mapText, Json.mapTextMembers, hasMember, Members.get?,
    Text.points_inj, instructionKey]

/-- An answer that has diagnostics, or else is a list of cases, shows which of the two it is. -/
theorem isCaseList_answerOf_iff {r : Loaded} (herror : r ≠ .error [])
    (hok : ∀ data, r = .ok data → ∃ items, data = .array items ∧ ∀ item ∈ items, IsCase item) :
    isCaseList (answerOf r) = true ↔ ∃ data, r = .ok data := by
  cases r with
  | ok data =>
    obtain ⟨items, rfl, hitems⟩ := hok data rfl
    simp only [answerOf, isCaseList, List.all_eq_true]
    exact ⟨fun _ => ⟨_, rfl⟩, fun _ item hitem => hasMember_of_isCase (hitems item hitem)⟩
  | error ds =>
    cases ds with
    | nil => exact absurd rfl herror
    | cons d ds => simp [isCaseList, answerOf, not_hasMember_toJson]

/-! ## Validation and loading -/

section

variable {compile : Schema → Validator} (h : Checks caseSchema (compile caseSchema))

include h

theorem validate_eq_ok_iff {data answer : Json Points} : validate compile data = .ok answer ↔
    answer = data ∧ ∃ items, data = .array items ∧ ∀ item ∈ items, IsCase item := by
  rw [← allows_caseSchema_iff, ← h.valid_iff, validate]
  split
  · next hvalid => simp [hvalid, eq_comm]
  · next hvalid => simp [hvalid]

theorem validate_eq_error_iff {data : Json Points} {ds : List Diagnostic} :
    validate compile data = .error ds ↔ ¬ Allows caseSchema data ∧
      ds = (compile caseSchema data).reported.map SchemaError.diagnostic := by
  rw [← h.valid_iff, validate]
  split
  · next hvalid => simp [hvalid]
  · next hvalid => simp [hvalid, eq_comm]

/-- What is not valid has a diagnostic. -/
theorem validate_ne_error_nil (data : Json Points) : validate compile data ≠ .error [] := by
  intro hnil
  obtain ⟨hviolates, hempty⟩ := (validate_eq_error_iff h).1 hnil
  obtain ⟨path, v, hv⟩ : ∃ path v, Violates caseSchema data path v := by
    simpa [Allows] using hviolates
  obtain ⟨e, he, -⟩ := (h.mem_reported_iff _ _ _).2 hv
  rw [List.map_eq_nil_iff.1 hempty.symm] at he
  cases he

theorem load_ne_error_nil (notJson path : String) (content : FileContent) :
    load compile notJson path content ≠ .error [] := by
  cases content with
  | missing => simp [load]
  | unreadable reason => simp [load]
  | bytes bytes =>
    rw [load]
    split
    · simp
    · exact validate_ne_error_nil h _

theorem isCase_of_load {notJson path : String} {content : FileContent} {answer : Json Points}
    (hload : load compile notJson path content = .ok answer) :
    ∃ items, answer = .array items ∧ ∀ item ∈ items, IsCase item := by
  cases content with
  | missing => cases hload
  | unreadable reason => cases hload
  | bytes bytes =>
    rw [load] at hload
    split at hload
    · cases hload
    · obtain ⟨rfl, hitems⟩ := (validate_eq_ok_iff h).1 hload
      exact hitems

/-- An item of an array is named by a diagnostic exactly if it is no case. -/
theorem exists_isAbout_iff {items : List (Json Points)} {i : Nat} {item : Json Points}
    (hitem : items[i]? = some item) :
    (∃ d ∈ (compile caseSchema (.array items)).reported.map SchemaError.diagnostic, IsAbout i d) ↔
      ¬ IsCase item := by
  constructor
  · rintro ⟨d, hd, habout⟩
    obtain ⟨e, he, rfl⟩ := List.mem_map.1 hd
    obtain ⟨k, other, hother, hcase, -, habout'⟩ := isAbout_of_mem h he
    obtain rfl : i = k := habout.unique habout'
    obtain rfl : item = other := Option.some.inj (hitem.symm.trans hother)
    exact hcase
  · intro hcase
    obtain ⟨e, he, habout⟩ := exists_isAbout h hitem hcase
    exact ⟨e.diagnostic, List.mem_map_of_mem he, habout⟩

end

/-- With a validator that checks the schema of case files, a value is accepted exactly if it is an
array of cases, and is then answered as it is. Otherwise the diagnostics follow the order of the
items and name exactly those that are no cases; a value that is no array has one diagnostic. A file
that is missing, that cannot be read or that is not JSON has one diagnostic as well. Each answer
shows whether it is a list of cases. -/
theorem validate_and_load {compile : Schema → Validator}
    (h : Checks caseSchema (compile caseSchema)) (data : Json Points) :
    (∀ answer, validate compile data = .ok answer ↔
      answer = data ∧ ∃ items, data = .array items ∧ ∀ item ∈ items, IsCase item) ∧
    (∀ ds, validate compile data = .error ds →
      ds ≠ [] ∧ (∀ d ∈ ds, d.code = "N103") ∧ ds.Pairwise InOrder ∧
      ((∀ items, data ≠ .array items) → ∃ d, ds = [d] ∧ PointsTo d "/") ∧
      ∀ items, data = .array items →
        (∀ d ∈ ds, ∃ i < items.length, IsAbout i d) ∧
        ∀ i item, items[i]? = some item → ((∃ d ∈ ds, IsAbout i d) ↔ ¬ IsCase item)) ∧
    (isCaseList (answerOf (validate compile data)) = true ↔
      ∃ items, data = .array items ∧ ∀ item ∈ items, IsCase item) ∧
    ∀ notJson path,
      (∃ d, load compile notJson path .missing = .error [d] ∧ d.code = "N101") ∧
      (∀ reason, ∃ d, load compile notJson path (.unreadable reason) = .error [d] ∧
        d.code = "N102") ∧
      (∀ bytes, Json.parsePoints? (Text.Utf8.decode bytes) = none →
        ∃ d, load compile notJson path (.bytes bytes) = .error [d] ∧ d.code = "N102") ∧
      (∀ bytes, Json.parsePoints? (Text.Utf8.decode bytes) = some data →
        load compile notJson path (.bytes bytes) = validate compile data) ∧
      ∀ content, isCaseList (answerOf (load compile notJson path content)) = true ↔
        ∃ answer, load compile notJson path content = .ok answer := by
  refine ⟨fun answer => validate_eq_ok_iff h, fun ds hds => ?_, ?_, fun notJson path =>
    ⟨⟨_, rfl, rfl⟩, fun reason => ⟨_, rfl, rfl⟩, fun bytes hnone => ?_, fun bytes hsome => ?_,
      fun content => isCaseList_answerOf_iff (load_ne_error_nil h notJson path content)
        fun answer => isCase_of_load h⟩⟩
  · have hne : ds ≠ [] := fun hnil => validate_ne_error_nil h data (hnil ▸ hds)
    obtain ⟨-, rfl⟩ := (validate_eq_error_iff h).1 hds
    refine ⟨hne, ?_, ?_, fun hother => ?_, ?_⟩
    · intro d hd
      obtain ⟨e, -, rfl⟩ := List.mem_map.1 hd
      rfl
    · by_cases harray : ∃ items, data = .array items
      · obtain ⟨items, rfl⟩ := harray
        exact pairwise_inOrder h
      · obtain ⟨e, he, -⟩ := reported_of_not_array h fun items heq => harray ⟨items, heq⟩
        rw [he]
        exact List.pairwise_singleton _ _
    · obtain ⟨e, he, hpath⟩ := reported_of_not_array h hother
      have hpoints := pointsTo_diagnostic e
      rw [if_pos hpath] at hpoints
      exact ⟨e.diagnostic, by rw [he, List.map_singleton], hpoints⟩
    · rintro items rfl
      refine ⟨fun d hd => ?_, fun i item hitem => exists_isAbout_iff h hitem⟩
      obtain ⟨e, he, rfl⟩ := List.mem_map.1 hd
      obtain ⟨i, item, hitem, -, -, habout⟩ := isAbout_of_mem h he
      exact ⟨i, (List.getElem?_eq_some_iff.1 hitem).1, habout⟩
  · rw [isCaseList_answerOf_iff (validate_ne_error_nil h data) fun answer hanswer => ?_]
    · simp only [validate_eq_ok_iff h]
      exact ⟨fun ⟨_, _, hitems⟩ => hitems, fun hitems => ⟨data, rfl, hitems⟩⟩
    · obtain ⟨rfl, hitems⟩ := (validate_eq_ok_iff h).1 hanswer
      exact hitems
  · rw [load, hnone]
    exact ⟨_, rfl, rfl⟩
  · rw [load, hsome]

/-- A case may have its members in any order, and its texts may hold lone surrogates; an item with
several faults has several diagnostics. -/
theorem validate_mixed_items :
    let good : Json Points := .object
      [(points "expected", .string [0xD800]), (points "instruction", .string [])]
    let bad : Json Points := .object
      [(points "instruction", .null), (points "note", .string (points "x"))]
    Checks caseSchema (checker caseSchema) ∧
      validate checker (.array [good]) = .ok (.array [good]) ∧
      ∃ ds, validate checker (.array [good, bad]) = .error ds ∧ ds.length = 3 ∧
        ds.Pairwise InOrder ∧ (∃ d ∈ ds, IsAbout 1 d) ∧ ¬ ∃ d ∈ ds, IsAbout 0 d := by
  intro good bad
  have hgood : IsCase good := by
    refine ⟨_, [], [0xD800], rfl, by simp, fun key => ?_⟩
    simp only [Members.get?_cons]
    by_cases hi : points "instruction" = key
    · simp [← hi, Text.points_inj]
    · simp [hi]
  have hbad : ¬ IsCase bad := by
    rintro ⟨ms, instruction, expected, hms, -, hget⟩
    obtain rfl := Json.object.inj hms
    simpa [Members.get?, Text.points_inj] using hget (points "expected")
  have hchecks := checks_checker caseSchema
  obtain ⟨hvalid, -, -, -⟩ := validate_and_load hchecks (.array [good])
  obtain ⟨-, hfaulty, -, -⟩ := validate_and_load hchecks (.array [good, bad])
  obtain ⟨-, -, hordered, -, hitems⟩ := hfaulty _ rfl
  obtain ⟨-, hitem⟩ := hitems _ rfl
  refine ⟨hchecks, (hvalid _).2 ⟨rfl, _, rfl, by simpa using hgood⟩, _, rfl, by decide +kernel,
    hordered, (hitem 1 bad rfl).2 hbad, fun habout => (hitem 0 good rfl).1 habout hgood⟩

end Phrasebook.SelfTest
