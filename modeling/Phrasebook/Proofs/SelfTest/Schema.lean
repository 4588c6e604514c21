import Mathlib.Tactic
import Phrasebook.Proofs.Json.Members
import Phrasebook.Proofs.Literal.Integer
import Phrasebook.SelfTest.Schema

/-!
# What a schema allows

A value violates a schema where a keyword of the schema is not met, at the value itself or at a
value inside it. `Checks` is what is relied on of a validator with all errors asked for: it accepts
exactly the values that violate nothing, and reports each violation once, in the order of the items
of an array.

Results:
* `allows_iff`: what a schema allows.
* `Within.unique`: a path leads into one item only.
* `Violates.path_cases`: a path is empty or starts with a slash.
-/

namespace Phrasebook.SelfTest

open Phrasebook.Json (Members)
open Phrasebook.Text (Points)

/-- The name of the type of a value. -/
def typeName : Json Points → String
  | .null => "null"
  | .bool _ => "boolean"
  | .number _ => "number"
  | .string _ => "string"
  | .array _ => "array"
  | .object _ => "object"

/-- A key inside a JSON pointer. -/
def pointerToken (key : String) : String :=
  String.ofList (key.toList.flatMap fun c =>
    if c = '~' then ['~', '0'] else if c = '/' then ['~', '1'] else [c])

/-- The value violates the schema: at the end of the path there is a value for which a keyword is
not met. Each keyword is about values of one type and is met by all others. -/
inductive Violates : Schema → Json Points → String → Violation → Prop
  | type {schema : Schema} {data : Json Points} {name : String} (h : schema.type = some name)
      (hdata : typeName data ≠ name) : Violates schema data "" (.type name)
  | minLength {schema : Schema} {s : Points} {limit : Nat} (h : schema.minLength = some limit)
      (hs : s.length < limit) : Violates schema (.string s) "" (.minLength limit)
  | required {schema : Schema} {ms : Members Points} {key : String} (h : key ∈ schema.required)
      (hms : ms.get? (Text.points key) = none) : Violates schema (.object ms) "" (.required key)
  | additionalProperties {schema : Schema} {ms : Members Points} {key : Points}
      (h : schema.additionalProperties = false) (hkey : key ∈ ms.map (·.1))
      (hother : ∀ p ∈ schema.properties, Text.points p.1 ≠ key) :
      Violates schema (.object ms) "" (.additionalProperties key)
  | properties {schema : Schema} {ms : Members Points} {p : String × Schema} {value : Json Points}
      {path : String} {v : Violation} (h : p ∈ schema.properties)
      (hvalue : ms.get? (Text.points p.1) = some value) (hv : Violates p.2 value path v) :
      Violates schema (.object ms) ("/" ++ pointerToken p.1 ++ path) v
  | items {schema sub : Schema} {items : List (Json Points)} {i : Nat} {item : Json Points}
      {path : String} {v : Violation} (h : schema.items = some sub) (hitem : items[i]? = some item)
      (hv : Violates sub item path v) :
      Violates schema (.array items) ("/" ++ toString i ++ path) v

/-- The value violates nothing. -/
def Allows (schema : Schema) (data : Json Points) : Prop := ∀ path v, ¬ Violates schema data path v

/-- The path leads to an item of an array or to a value inside it. -/
def Within (i : Nat) (path : String) : Prop :=
  ∃ rest, path = "/" ++ toString i ++ rest ∧ (rest = "" ∨ ∃ more, rest = "/" ++ more)

/-- The validator checks values against the schema, and reports all errors. -/
structure Checks (schema : Schema) (validator : Validator) : Prop where
  /-- A value is valid exactly if it violates nothing. -/
  valid_iff : ∀ data, (validator data).valid = true ↔ Allows schema data
  /-- The errors are the violations. -/
  mem_reported_iff : ∀ data path v,
    (∃ e ∈ (validator data).reported, e.instancePath = path ∧ e.violation = v) ↔
      Violates schema data path v
  /-- No violation is reported twice. -/
  nodup_reported : ∀ data,
    ((validator data).reported.map fun e => (e.instancePath, e.violation)).Nodup
  /-- The items of an array are checked one after the other. -/
  pairwise_reported : ∀ items, (validator (.array items)).reported.Pairwise fun e e' =>
    ∀ i k, Within i e.instancePath → Within k e'.instancePath → i ≤ k

/-! ## Violations -/

section

variable {schema : Schema} {data : Json Points} {path : String} {v : Violation}

/-- A path is empty or starts with a slash. -/
theorem Violates.path_cases (h : Violates schema data path v) :
    path = "" ∨ ∃ more, path = "/" ++ more := by
  cases h with
  | type | minLength | required | additionalProperties => exact .inl rfl
  | properties => exact .inr ⟨_, String.append_assoc⟩
  | items => exact .inr ⟨_, String.append_assoc⟩

/-- What violates a keyword of an item violates it inside the item. -/
theorem Violates.within {i : Nat} (h : Violates schema data path v) :
    Within i ("/" ++ toString i ++ path) :=
  ⟨path, rfl, h.path_cases⟩

/-- What a schema allows: every keyword is met, and what is inside the value is allowed. -/
theorem allows_iff : Allows schema data ↔
    (∀ name, schema.type = some name → typeName data = name) ∧
    (∀ s limit, data = .string s → schema.minLength = some limit → limit ≤ s.length) ∧
    (∀ ms : Members Points, data = .object ms →
      (∀ key ∈ schema.required, ms.get? (Text.points key) ≠ none) ∧
      (schema.additionalProperties = false →
        ∀ key ∈ ms.map (·.1), ∃ p ∈ schema.properties, Text.points p.1 = key) ∧
      ∀ p ∈ schema.properties, ∀ value, ms.get? (Text.points p.1) = some value →
        Allows p.2 value) ∧
    ∀ items sub, data = .array items → schema.items = some sub →
      ∀ item ∈ items, Allows sub item := by
  constructor
  · intro h
    refine ⟨fun name hname => ?_, fun s limit hs hlimit => ?_,
      fun ms hms => ⟨fun key hkey hnone => ?_, fun hclosed key hkey => ?_,
        fun p hp value hvalue path v hv => ?_⟩,
      fun items sub hitems hsub item hitem path v hv => ?_⟩
    · by_contra hne
      exact h _ _ (.type hname hne)
    · by_contra hlt
      subst hs
      exact h _ _ (.minLength hlimit (Nat.not_le.1 hlt))
    · subst hms
      exact h _ _ (.required hkey hnone)
    · by_contra hother
      subst hms
      exact h _ _ (.additionalProperties hclosed hkey fun p hp heq => hother ⟨p, hp, heq⟩)
    · subst hms
      exact h _ _ (.properties hp hvalue hv)
    · subst hitems
      obtain ⟨i, hi⟩ := List.mem_iff_getElem?.1 hitem
      exact h _ _ (.items hsub hi hv)
  · rintro ⟨htype, hlength, hobject, harray⟩ path v h
    cases h with
    | type h hdata => exact hdata (htype _ h)
    | minLength h hs => exact absurd (hlength _ _ rfl h) (Nat.not_le.2 hs)
    | required h hms => exact (hobject _ rfl).1 _ h hms
    | additionalProperties h hkey hother =>
      obtain ⟨p, hp, heq⟩ := (hobject _ rfl).2.1 h _ hkey
      exact hother p hp heq
    | properties h hvalue hv => exact (hobject _ rfl).2.2 _ h _ hvalue _ _ hv
    | items h hitem hv => exact harray _ _ rfl h _ (List.mem_of_getElem? hitem) _ _ hv

end

/-! ## Indices -/

/-- The text does not go on with a digit. -/
def NoDigit (s : List Char) : Prop := ∀ c, s.head? = some c → Text.isDigit c = false

theorem takeWhile_isDigit_toDigits (n : Nat) {s : List Char} (h : NoDigit s) :
    (Nat.toDigits 10 n ++ s).takeWhile Text.isDigit = Nat.toDigits 10 n := by
  rw [List.takeWhile_append_of_pos (Integer.allDigits_toDigits n).2]
  cases s with
  | nil => exact List.append_nil _
  | cons c s => rw [List.takeWhile_cons_of_neg (by simp [h c rfl]), List.append_nil]

/-- An index ends where its digits end. -/
theorem eq_of_toDigits_append {i k : Nat} {s t : List Char} (hs : NoDigit s) (ht : NoDigit t)
    (h : Nat.toDigits 10 i ++ s = Nat.toDigits 10 k ++ t) : i = k := by
  have hdigits : Nat.toDigits 10 i = Nat.toDigits 10 k := by
    rw [← takeWhile_isDigit_toDigits i hs, h, takeWhile_isDigit_toDigits k ht]
  rw [← Integer.decimalValue_toDigits i, hdigits, Integer.decimalValue_toDigits]

theorem Within.toList {i : Nat} {path : String} (h : Within i path) :
    ∃ rest, NoDigit rest ∧ path.toList = '/' :: (Nat.toDigits 10 i ++ rest) := by
  obtain ⟨rest, rfl, rfl | ⟨more, rfl⟩⟩ := h
  · exact ⟨[], by simp [NoDigit], by simp [String.toList_append, toString, Nat.toList_repr]⟩
  · refine ⟨'/' :: more.toList, ?_, by simp [String.toList_append, toString, Nat.toList_repr]⟩
    rintro c hc
    obtain rfl : '/' = c := Option.some.inj hc
    rfl

/-- A path leads into one item only. -/
theorem Within.unique {i k : Nat} {path : String} (hi : Within i path) (hk : Within k path) :
    i = k := by
  obtain ⟨rest, hrest, hpath⟩ := hi.toList
  obtain ⟨rest', hrest', hpath'⟩ := hk.toList
  exact eq_of_toDigits_append hrest hrest' (List.cons.inj (hpath.symm.trans hpath')).2

/-- Nothing is inside a path that is empty. -/
theorem not_within_empty (i : Nat) : ¬ Within i "" := by
  intro h
  obtain ⟨rest, -, hpath⟩ := h.toList
  cases hpath

end Phrasebook.SelfTest
