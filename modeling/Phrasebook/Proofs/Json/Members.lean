import Mathlib.Tactic
import Phrasebook.Json.Printer

/-!
# Members of objects

Setting keys leaves each key once, so setting the keys of an object again, one after the other,
builds the same object. Of several values of one key the last one counts. The members are written in
an order of their own, which loses none and does not go by their values.

Results:
* `distinct_putAll`: no key stands twice.
* `get?_putAll`: the last value of a key counts.
* `putAll_nil_of_distinct`: setting the keys of an object again.
* `mapTextMembers_putAll`, `ofPoints_points`: members with other texts.
* `writingOrder_perm`, `writingOrder_map`: the order in which members are written.
-/

namespace Phrasebook.Json

variable {σ τ : Type}

namespace Members

variable [DecidableEq σ] [DecidableEq τ]

/-! ## Keys -/

/-- Each key stands once. -/
def Distinct (ms : Members σ) : Prop := (ms.map (·.1)).Nodup

theorem mem_keys_put {key other : σ} {value : Json σ} {ms : Members σ} :
    other ∈ (put key value ms).map (·.1) ↔ other = key ∨ other ∈ ms.map (·.1) := by
  induction ms with
  | nil => simp [put]
  | cons m ms ih =>
    obtain ⟨k, v⟩ := m
    by_cases h : k = key
    · simp [put, h]
    · rw [put, if_neg h, List.map_cons, List.mem_cons, ih, List.map_cons, List.mem_cons]
      exact or_left_comm

theorem distinct_put (key : σ) (value : Json σ) {ms : Members σ} (h : Distinct ms) :
    Distinct (put key value ms) := by
  induction ms with
  | nil => simp [Distinct, put]
  | cons m ms ih =>
    obtain ⟨k, v⟩ := m
    obtain ⟨hfirst, hrest⟩ := List.nodup_cons.1 h
    by_cases hk : k = key
    · rw [put, if_pos hk]
      exact h
    · rw [put, if_neg hk]
      refine List.nodup_cons.2 ⟨fun hmem => ?_, ih hrest⟩
      rcases mem_keys_put.1 hmem with heq | hmem
      · exact hk heq
      · exact hfirst hmem

/-- No key stands twice. -/
theorem distinct_putAll (more : Members σ) {ms : Members σ} (h : Distinct ms) :
    Distinct (putAll ms more) := by
  induction more generalizing ms with
  | nil => exact h
  | cons m more ih => exact ih (distinct_put m.1 m.2 h)

theorem mem_of_mem_put {key : σ} {value : Json σ} {ms : Members σ} {m : σ × Json σ}
    (h : m ∈ put key value ms) : m ∈ ms ∨ m = (key, value) := by
  induction ms with
  | nil => exact .inr (List.mem_singleton.1 h)
  | cons first ms ih =>
    obtain ⟨k, v⟩ := first
    by_cases hk : k = key
    · rw [put, if_pos hk, List.mem_cons, hk] at h
      rcases h with h | h
      · exact .inr h
      · exact .inl (List.mem_cons_of_mem _ h)
    · rw [put, if_neg hk, List.mem_cons] at h
      rcases h with rfl | h
      · exact .inl List.mem_cons_self
      · exact (ih h).imp_left (List.mem_cons_of_mem _)

theorem mem_of_mem_putAll {ms more : Members σ} {m : σ × Json σ} (h : m ∈ putAll ms more) :
    m ∈ ms ∨ m ∈ more := by
  induction more generalizing ms with
  | nil => exact .inl h
  | cons first more ih =>
    rcases ih h with h | h
    · rcases mem_of_mem_put h with h | rfl
      · exact .inl h
      · exact .inr List.mem_cons_self
    · exact .inr (List.mem_cons_of_mem _ h)

/-! ## Values -/

theorem get?_cons (m : σ × Json σ) (ms : Members σ) (key : σ) :
    get? (m :: ms) key = if m.1 = key then some m.2 else get? ms key := by
  by_cases h : m.1 = key
  · simp [get?, h]
  · simp [get?, h]

theorem get?_eq_none_iff {ms : Members σ} {key : σ} :
    ms.get? key = none ↔ ∀ m ∈ ms, m.1 ≠ key := by
  simp [get?]

theorem get?_append (ms more : Members σ) (key : σ) :
    get? (ms ++ more) key = (get? ms key).or (get? more key) := by
  induction ms with
  | nil => rfl
  | cons m ms ih =>
    rw [List.cons_append, get?_cons, get?_cons, ih]
    split
    · rfl
    · rfl

/-- The last value of a key counts. -/
theorem get?_putAll (ms more : Members σ) (key : σ) :
    get? (putAll ms more) key = (get? more.reverse key).or (get? ms key) := by
  induction more generalizing ms with
  | nil => rfl
  | cons m more ih =>
    have hput : putAll ms (m :: more) = putAll (put m.1 m.2 ms) more := rfl
    rw [hput, ih, get?_put, List.reverse_cons, get?_append, get?_cons, Option.or_assoc]
    split
    · rfl
    · rfl

theorem get?_map (f : Json σ → Json σ) (ms : Members σ) (key : σ) :
    get? (ms.map fun m => (m.1, f m.2)) key = (get? ms key).map f := by
  induction ms with
  | nil => rfl
  | cons m ms ih =>
    rw [List.map_cons, get?_cons, get?_cons, ih]
    split
    · rfl
    · rfl

theorem get?_eq_some_iff {ms : Members σ} (h : Distinct ms) {key : σ} {value : Json σ} :
    get? ms key = some value ↔ (key, value) ∈ ms := by
  induction ms with
  | nil => simp [get?]
  | cons m ms ih =>
    obtain ⟨k, v⟩ := m
    obtain ⟨hfirst, hrest⟩ := List.nodup_cons.1 h
    rw [get?_cons, List.mem_cons]
    by_cases hk : k = key
    · subst hk
      have hnot : (k, value) ∉ ms := fun hmem => hfirst (List.mem_map.2 ⟨_, hmem, rfl⟩)
      simp [hnot, eq_comm]
    · rw [if_neg hk, ih hrest]
      simp [Ne.symm hk]

/-- The order of members does not matter to a look-up. -/
theorem get?_perm {ms other : Members σ} (hperm : ms.Perm other) (h : Distinct ms) (key : σ) :
    get? ms key = get? other key := by
  have hkeys : (ms.map (·.1)).Perm (other.map (·.1)) := hperm.map _
  have hother : Distinct other := hkeys.nodup_iff.1 h
  refine Option.ext fun value => ?_
  rw [get?_eq_some_iff h, get?_eq_some_iff hother, hperm.mem_iff]

/-! ## Setting keys again -/

theorem put_of_not_mem {key : σ} {ms : Members σ} (h : key ∉ ms.map (·.1)) (value : Json σ) :
    put key value ms = ms ++ [(key, value)] := by
  induction ms with
  | nil => rfl
  | cons m ms ih =>
    obtain ⟨k, v⟩ := m
    rw [List.map_cons, List.mem_cons, not_or] at h
    rw [put, if_neg (Ne.symm h.1), ih h.2, List.cons_append]

theorem putAll_append_of_distinct {ms more : Members σ} (h : Distinct (ms ++ more)) :
    putAll ms more = ms ++ more := by
  induction more generalizing ms with
  | nil => simp [putAll]
  | cons m more ih =>
    have hput : putAll ms (m :: more) = putAll (put m.1 m.2 ms) more := rfl
    have hsplit : ms ++ m :: more = ms ++ [m] ++ more := by simp
    have hnew : m.1 ∉ ms.map (·.1) := by
      rw [Distinct, List.map_append, List.map_cons] at h
      exact fun hmem => (List.disjoint_of_nodup_append h) hmem List.mem_cons_self
    rw [hsplit] at h ⊢
    rw [hput, put_of_not_mem hnew]
    exact ih h

/-- Setting the keys of an object one after the other builds it again. -/
theorem putAll_nil_of_distinct {ms : Members σ} (h : Distinct ms) : putAll [] ms = ms := by
  have happend : Distinct ([] ++ ms) := h
  exact putAll_append_of_distinct happend

end Members

/-! ## Other texts -/

theorem mapTextItems_eq_map (f : σ → τ) (items : List (Json σ)) :
    mapTextItems f items = items.map (mapText f) := by
  induction items with
  | nil => rfl
  | cons item items ih => rw [mapTextItems, ih, List.map_cons]

section

variable [DecidableEq σ] [DecidableEq τ] {f : σ → τ}

theorem mapTextMembers_put (hf : Function.Injective f) (key : σ) (value : Json σ)
    (ms : Members σ) : mapTextMembers f (ms.put key value) =
      Members.put (f key) (value.mapText f) (mapTextMembers f ms) := by
  induction ms with
  | nil => rfl
  | cons m ms ih =>
    obtain ⟨k, v⟩ := m
    by_cases hk : k = key
    · simp [Members.put, mapTextMembers, hk]
    · simp [Members.put, mapTextMembers, hk, hf.eq_iff, ih]

/-- Members are set alike among other texts. -/
theorem mapTextMembers_putAll (hf : Function.Injective f) (ms more : Members σ) :
    mapTextMembers f (ms.putAll more) =
      (mapTextMembers f ms).putAll (mapTextMembers f more) := by
  induction more generalizing ms with
  | nil => rfl
  | cons m more ih =>
    have hput : ms.putAll (m :: more) = (ms.put m.1 m.2).putAll more := rfl
    rw [hput, ih, mapTextMembers_put hf]
    rfl

end

mutual

/-- A value keeps its texts on the way to code points and back. -/
theorem ofPoints_points : ∀ j : Json, j.points.ofPoints = j
  | .null => rfl
  | .bool _ => rfl
  | .number _ => rfl
  | .string s => by rw [points, mapText, ofPoints, mapText, Text.ofPoints_points]
  | .array items => by
    rw [points, mapText, ofPoints, mapText, ofPoints_pointsItems items]
  | .object ms => by
    rw [points, mapText, ofPoints, mapText, ofPoints_pointsMembers ms]

theorem ofPoints_pointsItems : ∀ items : List Json,
    mapTextItems Text.ofPoints (mapTextItems Text.points items) = items
  | [] => rfl
  | item :: items => by
    have hitem : (item.mapText Text.points).mapText Text.ofPoints = item := ofPoints_points item
    rw [mapTextItems, mapTextItems, hitem, ofPoints_pointsItems items]

theorem ofPoints_pointsMembers : ∀ ms : Members,
    mapTextMembers Text.ofPoints (mapTextMembers Text.points ms) = ms
  | [] => rfl
  | (key, value) :: ms => by
    have hvalue : (value.mapText Text.points).mapText Text.ofPoints = value := ofPoints_points value
    rw [mapTextMembers, mapTextMembers, Text.ofPoints_points, hvalue, ofPoints_pointsMembers ms]

end

theorem injective_points : Function.Injective Text.points := fun _ _ => Text.points_inj.1

/-! ## The order of writing -/

section

variable {α β : Type}

theorem insertAscending_perm (x : Nat × α) (xs : List (Nat × α)) :
    (insertAscending x xs).Perm (x :: xs) := by
  induction xs with
  | nil => exact .refl _
  | cons y ys ih =>
    rw [insertAscending]
    split
    · exact .refl _
    · exact (ih.cons y).trans (.swap x y ys)

theorem foldr_insertAscending_perm (xs : List (Nat × α)) :
    (xs.foldr insertAscending []).Perm xs := by
  induction xs with
  | nil => exact .refl _
  | cons x xs ih => exact (insertAscending_perm x _).trans (ih.cons x)

theorem map_snd_indices (ms : List (String × α)) :
    (ms.filterMap fun m => (arrayIndex? m.1).map (·, m)).map (·.2) =
      ms.filter fun m => !(arrayIndex? m.1).isNone := by
  induction ms with
  | nil => rfl
  | cons m ms ih =>
    cases h : arrayIndex? m.1 with
    | none => simpa [h] using ih
    | some n => simpa [h] using ih

/-- No member is lost. -/
theorem writingOrder_perm (ms : List (String × α)) : (writingOrder ms).Perm ms := by
  have hindices := (foldr_insertAscending_perm
    (ms.filterMap fun m => (arrayIndex? m.1).map (·, m))).map (·.2)
  rw [map_snd_indices] at hindices
  refine (hindices.append_right _).trans ((List.perm_append_comm).trans ?_)
  exact List.filter_append_perm _ ms

/-- Members whose keys are no array indices are written in their own order. -/
theorem writingOrder_eq_self {ms : List (String × α)} (h : ∀ m ∈ ms, arrayIndex? m.1 = none) :
    writingOrder ms = ms := by
  have hindices : ms.filterMap (fun m => (arrayIndex? m.1).map (·, m)) = [] := by
    refine List.filterMap_eq_nil_iff.2 fun m hm => ?_
    rw [h m hm, Option.map_none]
  have hothers : ms.filter (arrayIndex? ·.1 |>.isNone) = ms := by
    refine List.filter_eq_self.2 fun m hm => ?_
    rw [h m hm, Option.isNone_none]
  rw [writingOrder, hindices, hothers]
  rfl

theorem insertAscending_map (f : α → β) (x : Nat × α) (xs : List (Nat × α)) :
    insertAscending (x.1, f x.2) (xs.map fun y => (y.1, f y.2)) =
      (insertAscending x xs).map fun y => (y.1, f y.2) := by
  induction xs with
  | nil => rfl
  | cons y ys ih =>
    rw [List.map_cons, insertAscending, insertAscending]
    split
    · rfl
    · rw [ih, List.map_cons]

theorem foldr_insertAscending_map (f : α → β) (xs : List (Nat × α)) :
    (xs.map fun y => (y.1, f y.2)).foldr insertAscending [] =
      (xs.foldr insertAscending []).map fun y => (y.1, f y.2) := by
  induction xs with
  | nil => rfl
  | cons x xs ih => rw [List.map_cons, List.foldr_cons, ih, insertAscending_map, List.foldr_cons]

/-- The order does not go by the values. -/
theorem writingOrder_map (f : α → β) (ms : List (String × α)) :
    writingOrder (ms.map fun m => (m.1, f m.2)) =
      (writingOrder ms).map fun m => (m.1, f m.2) := by
  let member (m : String × α) : String × β := (m.1, f m.2)
  have hindices : (ms.map member).filterMap (fun m => (arrayIndex? m.1).map (·, m)) =
      (ms.filterMap fun m => (arrayIndex? m.1).map (·, m)).map fun y => (y.1, member y.2) := by
    rw [List.filterMap_map, List.map_filterMap]
    refine List.filterMap_congr fun m _ => ?_
    simp [Function.comp_def, member]
  have hothers : (ms.map member).filter (arrayIndex? ·.1 |>.isNone) =
      (ms.filter (arrayIndex? ·.1 |>.isNone)).map member :=
    List.filter_map
  change writingOrder (ms.map member) = (writingOrder ms).map member
  rw [writingOrder, hindices, foldr_insertAscending_map member, hothers, List.map_map, writingOrder,
    List.map_append, List.map_map]
  rfl

end

end Phrasebook.Json
