import Phrasebook.Proofs.SelfTest.Schema

/-!
# A validator

A validator that goes through a schema and a value together, and so a witness that there is one of
which everything holds that is relied on.

Results:
* `mem_found_iff`: what is found are the violations.
* `pairwise_found`: the items of an array are checked one after the other.
* `checks_checker`: the validator checks values against its schema.
-/

namespace Phrasebook.SelfTest

open Phrasebook.Json (Members)
open Phrasebook.Text (Points)

/-- What a violation is called in a sentence. -/
def Violation.message : Violation → String
  | .type expected => s!"must be {expected}"
  | .minLength limit => s!"must NOT have fewer than {limit} characters"
  | .required key => s!"must have required property '{key}'"
  | .additionalProperties _ => "must NOT have additional properties"

/-! ## Going through a schema -/

/-- The violation of the type of a value. -/
def foundType (type : Option String) (data : Json Points) : List Violation :=
  match type with
  | some name => if typeName data = name then [] else [.type name]
  | none => []

/-- The violation of the length of a string. -/
def foundLength (minLength : Option Nat) : Json Points → List Violation
  | .string s =>
    match minLength with
    | some limit => if s.length < limit then [.minLength limit] else []
    | none => []
  | _ => []

/-- The violations of the keys of an object: those that are missing, then those that have no
schema. -/
def foundKeys (required : List String) (additional : Bool) (properties : List (String × Schema)) :
    Json Points → List Violation
  | .object ms =>
    (required.filter fun key => (Members.get? ms (Text.points key)).isNone).map .required ++
      if additional then []
      else ((ms.map (·.1)).filter fun key =>
        !properties.any fun p => Text.points p.1 == key).map .additionalProperties
  | _ => []

mutual

/-- The violations of a value that is found at a path, with their paths. -/
def found (path : String) (data : Json Points) : Schema → List (String × Violation)
  | ⟨type, minLength, required, additional, properties, items⟩ =>
    ((foundType type data ++ foundLength minLength data ++
        foundKeys required additional properties data).map fun v => (path, v)) ++
      foundInside path data properties ++ foundInItems path data items

/-- The violations of the values of keys. -/
def foundInside (path : String) (data : Json Points) :
    List (String × Schema) → List (String × Violation)
  | [] => []
  | (key, schema) :: properties =>
    (match data.members?.bind (Members.get? · (Text.points key)) with
      | some value => found (path ++ "/" ++ pointerToken key) value schema
      | none => []) ++ foundInside path data properties

/-- The violations of the items of an array. -/
def foundInItems (path : String) (data : Json Points) :
    Option Schema → List (String × Violation)
  | none => []
  | some schema =>
    match data with
    | .array items =>
      items.zipIdx.flatMap fun (item, i) => found (path ++ "/" ++ toString i) item schema
    | _ => []

end

/-- The verdict on a value: it is valid if nothing is found. -/
def checker (schema : Schema) (data : Json Points) : Verdict :=
  let violations := (found "" data schema).dedup
  if violations = [] then ⟨true, none⟩
  else ⟨false, some (violations.map fun v => ⟨v.1, v.2, some v.2.message⟩)⟩

/-! ## What is found -/

section

variable {data : Json Points} {path : String} {v : Violation}

theorem mem_foundType_iff {type : Option String} :
    v ∈ foundType type data ↔ ∃ name, type = some name ∧ typeName data ≠ name ∧ v = .type name := by
  cases type with
  | none => simp [foundType]
  | some name => by_cases h : typeName data = name <;> simp [foundType, h]

theorem mem_foundLength_iff {minLength : Option Nat} : v ∈ foundLength minLength data ↔
    ∃ s limit, data = .string s ∧ minLength = some limit ∧ s.length < limit ∧
      v = .minLength limit := by
  cases data with
  | string s =>
    cases minLength with
    | none => simp [foundLength]
    | some limit => by_cases h : s.length < limit <;> simp [foundLength, h]
  | _ => simp [foundLength]

theorem mem_foundKeys_iff {required : List String} {additional : Bool}
    {properties : List (String × Schema)} :
    v ∈ foundKeys required additional properties data ↔ ∃ ms : Members Points, data = .object ms ∧
      ((∃ key ∈ required, ms.get? (Text.points key) = none ∧ v = .required key) ∨
        ∃ key ∈ ms.map (·.1), additional = false ∧
          (∀ p ∈ properties, Text.points p.1 ≠ key) ∧ v = .additionalProperties key) := by
  cases data with
  | object ms =>
    cases additional with
    | true => simp [foundKeys, and_assoc, @eq_comm _ v]
    | false => simp [foundKeys, and_assoc, @eq_comm _ v]
  | _ => simp [foundKeys]

end

mutual

/-- What is found are the violations. -/
theorem mem_found_iff (path : String) (data : Json Points) (x : String × Violation) :
    ∀ schema : Schema, x ∈ found path data schema ↔
      ∃ rest, x.1 = path ++ rest ∧ Violates schema data rest x.2
  | ⟨type, minLength, required, additional, properties, items⟩ => by
    obtain ⟨p, v⟩ := x
    rw [found, List.mem_append, List.mem_append, mem_foundInside_iff path data _ properties,
      mem_foundInItems_iff path data _ items]
    simp only [List.mem_map, List.mem_append, mem_foundType_iff, mem_foundLength_iff,
      mem_foundKeys_iff, Prod.mk.injEq]
    constructor
    · rintro ((⟨v, hv, rfl, rfl⟩ | ⟨q, hq, ms, value, rest, rfl, hvalue, rfl, hv⟩) |
        ⟨sub, items, i, item, rest, rfl, rfl, hitem, rfl, hv⟩)
      · refine ⟨"", String.append_empty.symm, ?_⟩
        obtain (⟨name, rfl, hname, rfl⟩ | ⟨s, limit, rfl, rfl, hs, rfl⟩) |
          ⟨ms, rfl, ⟨key, hkey, hnone, rfl⟩ | ⟨key, hkey, rfl, hother, rfl⟩⟩ := hv
        · exact .type rfl hname
        · exact .minLength rfl hs
        · exact .required hkey hnone
        · exact .additionalProperties rfl (List.mem_map.2 hkey) hother
      · exact ⟨_, by simp only [String.append_assoc], .properties hq hvalue hv⟩
      · exact ⟨_, by simp only [String.append_assoc], .items rfl hitem hv⟩
    · rintro ⟨rest, rfl, hv⟩
      cases hv with
      | type h hdata => exact .inl (.inl ⟨_, .inl (.inl ⟨_, h, hdata, rfl⟩), by simp, rfl⟩)
      | minLength h hs =>
        exact .inl (.inl ⟨_, .inl (.inr ⟨_, _, rfl, h, hs, rfl⟩), by simp, rfl⟩)
      | required h hms =>
        exact .inl (.inl ⟨_, .inr ⟨_, rfl, .inl ⟨_, h, hms, rfl⟩⟩, by simp, rfl⟩)
      | additionalProperties h hkey hother =>
        exact .inl (.inl ⟨_, .inr ⟨_, rfl, .inr ⟨_, List.mem_map.1 hkey, h, hother, rfl⟩⟩,
          by simp, rfl⟩)
      | properties h hvalue hv =>
        exact .inl (.inr ⟨_, h, _, _, _, rfl, hvalue, by simp only [String.append_assoc], hv⟩)
      | items h hitem hv =>
        exact .inr ⟨_, _, _, _, _, h, rfl, hitem, by simp only [String.append_assoc], hv⟩

theorem mem_foundInside_iff (path : String) (data : Json Points) (x : String × Violation) :
    ∀ properties : List (String × Schema), x ∈ foundInside path data properties ↔
      ∃ p ∈ properties, ∃ (ms : Members Points) (value : Json Points) (rest : String),
        data = .object ms ∧ ms.get? (Text.points p.1) = some value ∧
          x.1 = path ++ "/" ++ pointerToken p.1 ++ rest ∧ Violates p.2 value rest x.2
  | [] => by simp [foundInside]
  | (key, schema) :: properties => by
    have hfound := fun value =>
      mem_found_iff (path ++ "/" ++ pointerToken key) value x schema
    rw [foundInside, List.mem_append, mem_foundInside_iff path data x properties,
      List.exists_mem_cons_iff]
    refine or_congr ?_ Iff.rfl
    cases data with
    | object ms =>
      cases hvalue : Members.get? ms (Text.points key) with
      | none => simp [Json.members?, hvalue]
      | some value => simp [Json.members?, hvalue, hfound]
    | _ => simp [Json.members?]

theorem mem_foundInItems_iff (path : String) (data : Json Points) (x : String × Violation) :
    ∀ sub : Option Schema, x ∈ foundInItems path data sub ↔
      ∃ (schema : Schema) (items : List (Json Points)) (i : Nat) (item : Json Points)
        (rest : String), sub = some schema ∧ data = .array items ∧ items[i]? = some item ∧
          x.1 = path ++ "/" ++ toString i ++ rest ∧ Violates schema item rest x.2
  | none => by simp [foundInItems]
  | some schema => by
    have hfound := fun item (i : Nat) => mem_found_iff (path ++ "/" ++ toString i) item x schema
    cases data with
    | array items =>
      simp only [foundInItems, List.mem_flatMap, Prod.exists, List.mem_zipIdx_iff_getElem?, hfound]
      constructor
      · rintro ⟨item, i, hitem, rest, hpath, hv⟩
        exact ⟨schema, items, i, item, rest, rfl, rfl, hitem, hpath, hv⟩
      · rintro ⟨_, _, i, item, rest, ⟨⟩, ⟨⟩, hitem, hpath, hv⟩
        exact ⟨item, i, hitem, rest, hpath, hv⟩
    | _ => simp [foundInItems]

end

/-! ## The order of the items -/

theorem pairwise_foundInItems (items : List (Json Points)) (schema : Schema) :
    (foundInItems "" (.array items) (some schema)).Pairwise fun x y =>
      ∀ i k, Within i x.1 → Within k y.1 → i ≤ k := by
  have hwithin : ∀ (item : Json Points) (i : Nat),
      ∀ x ∈ found ("" ++ "/" ++ toString i) item schema, Within i x.1 := by
    intro item i x hx
    obtain ⟨rest, hpath, hv⟩ := (mem_found_iff _ item x schema).1 hx
    rw [hpath, String.empty_append]
    exact hv.within
  rw [foundInItems, List.pairwise_flatMap]
  refine ⟨fun p _ => ?_, ?_⟩
  · refine List.pairwise_of_forall_mem_list fun x hx y hy i k hi hk => ?_
    rw [hi.unique (hwithin _ _ x hx), hk.unique (hwithin _ _ y hy)]
  · have hindices : items.zipIdx.Pairwise fun p q => p.2 < q.2 := by
      rw [← List.pairwise_map, List.zipIdx_map_snd]
      exact List.pairwise_lt_range'
    refine hindices.imp fun hlt x hx y hy i k hi hk => ?_
    rw [hi.unique (hwithin _ _ x hx), hk.unique (hwithin _ _ y hy)]
    exact hlt.le

/-- The items of an array are checked one after the other. -/
theorem pairwise_found (items : List (Json Points)) : ∀ schema : Schema,
    (found "" (.array items) schema).Pairwise fun x y =>
      ∀ i k, Within i x.1 → Within k y.1 → i ≤ k
  | ⟨type, minLength, required, additional, properties, sub⟩ => by
    have hproperties : foundInside "" (.array items) properties = [] := by
      rw [List.eq_nil_iff_forall_not_mem]
      rintro x hx
      obtain ⟨-, -, ms, -, -, h, -⟩ := (mem_foundInside_iff _ _ x properties).1 hx
      cases h
    rw [found, hproperties, List.append_nil, List.pairwise_append]
    -- what is found at the array itself is inside no item
    refine ⟨?_, ?_, ?_⟩
    · refine List.pairwise_of_forall_mem_list fun x hx y _ i k hi _ => ?_
      obtain ⟨v, -, rfl⟩ := List.mem_map.1 hx
      exact absurd hi (not_within_empty i)
    · cases sub with
      | none => exact .nil
      | some schema => exact pairwise_foundInItems items schema
    · intro x hx y _ i k hi _
      obtain ⟨v, -, rfl⟩ := List.mem_map.1 hx
      exact absurd hi (not_within_empty i)

/-! ## The validator -/

theorem reported_checker (schema : Schema) (data : Json Points) :
    (checker schema data).reported = (found "" data schema).dedup.map fun v =>
      ⟨v.1, v.2, some v.2.message⟩ := by
  unfold checker
  dsimp only
  split
  · next h =>
    rw [h]
    rfl
  · rfl

theorem mem_found_root_iff {schema : Schema} {data : Json Points} {path : String}
    {v : Violation} : (path, v) ∈ found "" data schema ↔ Violates schema data path v := by
  rw [mem_found_iff]
  simp

/-- The validator checks values against its schema. -/
theorem checks_checker (schema : Schema) : Checks schema (checker schema) where
  valid_iff data := by
    have hvalid : (checker schema data).valid = true ↔ found "" data schema = [] := by
      unfold checker
      dsimp only
      split
      · next h => simpa using h
      · next h => simpa using h
    rw [hvalid, List.eq_nil_iff_forall_not_mem]
    exact ⟨fun h path v hv => h _ (mem_found_root_iff.2 hv),
      fun h x hx => h _ _ (mem_found_root_iff.1 hx)⟩
  mem_reported_iff data path v := by
    rw [reported_checker, ← mem_found_root_iff]
    simp
  nodup_reported data := by
    rw [reported_checker, List.map_map]
    exact (List.nodup_dedup _).map fun x y h => h
  pairwise_reported items := by
    rw [reported_checker, List.pairwise_map]
    exact (pairwise_found items schema).sublist (List.dedup_sublist _)

end Phrasebook.SelfTest
