import Phrasebook.Proofs.Pattern.Extent
import Phrasebook.Proofs.Pattern.Reading
import Phrasebook.Trigger

/-!
# The wrapping of patterns

A trigger is read from the text of a pattern between `^(?:` and `)$`. The text is not looked at
before, so it may close the group that the wrapping opens and open another one.

Results:
* `compile?_of_read?`: a text that is a pattern on its own gives that pattern between the anchors.
* `compile?_eq_seqs`: whatever the text, the trigger starts and ends with the anchors unless a bar
  stands outside of all groups.
-/

namespace Phrasebook

/-! ## Building inside a group -/

namespace TreeBuilder

/-- The builder inside another group. -/
def under (b : TreeBuilder) (g : OpenGroup) : TreeBuilder := { b with outer := b.outer ++ [g] }

/-- A token that can be taken can be taken inside another group, which it does not change. -/
theorem step_under {b b' : TreeBuilder} {t : Token} (h : b.step t = some b') (g : OpenGroup) :
    (b.under g).step t = some (b'.under g) := by
  obtain ⟨current, outer, n⟩ := b
  cases t with
  | one k => cases h; rfl
  | atStart => cases h; rfl
  | atEnd => cases h; rfl
  | bar => cases h; rfl
  | opening capturing => cases capturing <;> cases h <;> rfl
  | closing =>
    cases outer with
    | nil => cases h
    | cons o os => cases h; rfl
  | quantifier least most greedy =>
    simp only [step, under] at h ⊢
    split at h
    · cases h; rfl
    · cases h

theorem run_under {ts : List Token} (g : OpenGroup) : ∀ {b b' : TreeBuilder},
    ts.foldlM step b = some b' → ts.foldlM step (b.under g) = some (b'.under g) := by
  induction ts with
  | nil =>
    intro b b' h
    cases h
    rfl
  | cons t ts ih =>
    intro b b' h
    obtain ⟨u, hu, h⟩ := Option.bind_eq_some_iff.1 h
    rw [List.foldlM_cons, step_under hu g]
    exact ih h

end TreeBuilder

/-! ## The tokens of a wrapped text -/

namespace Trigger

open Token

/-- The characters of the anchored form. -/
def anchored (source : List Char) : List Char := "^(?:".toList ++ source ++ ")$".toList

theorem toList_wrap (source : String) : (wrap source).toList = anchored source.toList := by
  rw [wrap, String.toList_append, String.toList_append, anchored]

theorem scan_anchored (source : List Char) :
    scan (anchored source) =
      (scanWith (source.length + 4) (source ++ [')', '$'])).map
        fun ts => .atStart :: .opening false :: ts := by
  have hlength : (anchored source).length = source.length + 4 + 2 := by
    have hopening : "^(?:".toList.length = 4 := by simp
    have hclosing : ")$".toList.length = 2 := by simp
    rw [anchored, List.length_append, List.length_append]
    omega
  rw [scan, hlength]
  show ((scanWith (source.length + 4) (source ++ [')', '$'])).bind
    fun ts => some (.opening false :: ts)).bind (fun ts => some (.atStart :: ts)) = _
  cases scanWith (source.length + 4) (source ++ [')', '$']) with
  | none => rfl
  | some ts => rfl

/-- The tokens of a text stay as they are in the wrapping. -/
theorem scan_anchored_of_scan {source : List Char} {ts : List Token} (h : scan source = some ts) :
    scan (anchored source) = some (.atStart :: .opening false :: (ts ++ [.closing, .atEnd])) := by
  have happend := scan_append h (show scan [')', '$'] = some [.closing, .atEnd] from rfl)
  rw [scan_anchored, scanWith_mono happend _ (by simp), Option.map_some]

/-- The wrapped text starts and ends with the anchors, however the rest is read. -/
theorem scan_anchored_eq_some {source : List Char} {ts : List Token}
    (h : scan (anchored source) = some ts) : ∃ us, ts = .atStart :: (us ++ [.atEnd]) := by
  rw [scan_anchored] at h
  obtain ⟨us, hus, rfl⟩ := Option.map_eq_some_iff.1 h
  obtain ⟨us, rfl⟩ := scanWith_eq_concat (.inr (List.suffix_append _ _)) hus
  exact ⟨.opening false :: us, rfl⟩

/-! ## Patterns on their own -/

/-- A text that is a pattern on its own gives that pattern between the anchors. -/
theorem compile?_of_read? {source : String} {p : Pattern} {n : Nat}
    (h : Pattern.read? source.toList = some (p, n)) :
    compile? source = some ⟨Pattern.seqs [.atStart, p, .atEnd], n⟩ := by
  obtain ⟨ts, b, hts, hb, hfinish, hconsistent⟩ := Pattern.read?_eq_some h
  obtain ⟨houter, hindex, rfl, rfl, -, -⟩ := hconsistent.finish hfinish
  let start : OpenGroup := { items := [.atStart] }
  have hrun : ts.foldlM TreeBuilder.step ⟨{}, [start], 0⟩ = some (b.under start) :=
    TreeBuilder.run_under start hb
  have hunder : b.under start = ⟨b.current, [start], b.groups⟩ := by
    rw [TreeBuilder.under, houter]
    rfl
  have hclose : b.current.close = b.current.body := by
    rw [OpenGroup.close, hindex]
  have htokens : Pattern.ofTokens? (.atStart :: .opening false :: (ts ++ [.closing, .atEnd])) =
      some (Pattern.seqs [.atStart, b.current.body, .atEnd], b.groups) := by
    show ((ts ++ [Token.closing, Token.atEnd]).foldlM TreeBuilder.step ⟨{}, [start], 0⟩).bind _ = _
    rw [List.foldlM_append, hrun, hunder, ← hclose]
    rfl
  rw [compile?, read?, toList_wrap, Pattern.read?, scan_anchored_of_scan hts, Option.bind_some,
    htokens]
  rfl

end Trigger

/-! ## Any text -/

/-- The pattern is a choice. -/
def Pattern.isChoice : Pattern → Bool
  | .alt _ _ => true
  | _ => false

theorem Pattern.isChoice_alts {ps : List Pattern} (h : 2 ≤ ps.length) :
    (alts ps).isChoice = true := by
  match ps with
  | [] => simp at h
  | [p] => simp at h
  | p :: q :: ps => rfl

/-- A group of one alternative is a row. -/
theorem OpenGroup.body_eq_seqs {g : OpenGroup} (h : g.finished = []) :
    g.body = Pattern.seqs g.items.reverse := by
  rw [body, endAlternative, h]
  rfl

/-- As long as the group has one alternative, that starts with the anchor, which takes no
quantifier. -/
def OpenGroup.StartsAtStart (g : OpenGroup) : Prop :=
  g.finished = [] → ∃ ps, g.items = ps ++ [.atStart] ∧ (ps = [] → g.repeatable = false)

namespace TreeBuilder

theorem startsAtStart_step {b b' : TreeBuilder} {t : Token} (hb : b.bottom.StartsAtStart)
    (h : b.step t = some b') : b'.bottom.StartsAtStart := by
  refine bottom_step (P := OpenGroup.StartsAtStart) ?_ ?_ ?_ hb h
  · intro g p r hg hfinished
    obtain ⟨ps, hps, -⟩ := hg hfinished
    exact ⟨p :: ps, by rw [OpenGroup.push, hps]; rfl, by simp⟩
  · intro g _ hfinished
    cases hfinished
  · intro g p ps least most greedy hitems hrepeatable hg hfinished
    obtain ⟨qs, hqs, hnil⟩ := hg hfinished
    cases qs with
    | nil =>
      rw [hnil rfl] at hrepeatable
      cases hrepeatable
    | cons q qs =>
      rw [hitems] at hqs
      obtain ⟨rfl, rfl⟩ := List.cons.inj hqs
      exact ⟨.repeated p least most greedy :: qs, rfl, fun _ => rfl⟩

end TreeBuilder

/-- Whatever the text, the trigger starts and ends with the anchors unless it is a choice. -/
theorem Trigger.compile?_eq_seqs {source : String} {t : Trigger} (h : compile? source = some t)
    (hchoice : t.pattern.isChoice = false) :
    ∃ ps, t.pattern = Pattern.seqs (.atStart :: (ps ++ [.atEnd])) := by
  obtain ⟨⟨p, n⟩, hread, rfl⟩ := Option.map_eq_some_iff.1 h
  obtain ⟨ts, b, hts, hb, hfinish, hconsistent⟩ := Pattern.read?_eq_some hread
  obtain ⟨houter, -, rfl, -, -, -⟩ := hconsistent.finish hfinish
  rw [Trigger.toList_wrap] at hts
  obtain ⟨us, rfl⟩ := scan_anchored_eq_some hts
  -- the builder behind the first anchor, and the one in front of the last one
  rw [List.foldlM_cons] at hb
  obtain ⟨b₁, hb₁, hrun⟩ := Option.bind_eq_some_iff.1 hb
  rw [List.foldlM_append] at hrun
  obtain ⟨b₂, hb₂, hlast⟩ := Option.bind_eq_some_iff.1 hrun
  cases hb₁
  cases hlast
  have houter : b₂.outer = [] := houter
  have hstart : b₂.current.StartsAtStart := by
    have hbottom : b₂.bottom.StartsAtStart :=
      TreeBuilder.run_preserves (P := fun b => b.bottom.StartsAtStart)
        (fun _ _ _ _ hb => TreeBuilder.startsAtStart_step hb)
        (fun _ => ⟨[], rfl, fun _ => rfl⟩) hb₂
    rwa [TreeBuilder.bottom, houter] at hbottom
  cases hfinished : b₂.current.finished with
  | nil =>
    obtain ⟨ps, hps, -⟩ := hstart hfinished
    refine ⟨ps.reverse, ?_⟩
    show (b₂.current.push .atEnd false).body = _
    rw [OpenGroup.body_eq_seqs (g := b₂.current.push .atEnd false) hfinished]
    show Pattern.seqs (.atEnd :: b₂.current.items).reverse = _
    rw [hps, List.reverse_cons, List.reverse_append]
    rfl
  | cons q qs =>
    -- with an alternative finished there are two, and the trigger is a choice
    have hlength :
        2 ≤ (b₂.current.push .atEnd false).endAlternative.finished.reverse.length := by
      simp [OpenGroup.endAlternative, OpenGroup.push, hfinished]
    cases (Pattern.isChoice_alts hlength).symm.trans hchoice

end Phrasebook
