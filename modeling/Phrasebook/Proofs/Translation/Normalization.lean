import Phrasebook.Proofs.Text.Lowercase
import Phrasebook.Session

/-!
# Normalized instructions

Normalizing lower-cases first and trims then. The other order gives the same, and what is normalized
stays as it is. So an instruction, what trimming leaves of it, and its normal form have the same
translation and the same log records.

Results:
* `normalize_normalize`, `lowered_trimmed`, `normalize_trimmed`: the normal form.
* `RuleTable.translate_trimmed`, `RuleTable.translate_normalize`: the translation.
-/

namespace Phrasebook

open Phrasebook.Text

theorem toList_normalize (s : String) : (normalize s).toList = trim (lower s.toList) := by
  rw [normalize, String.toList_ofList]

theorem normalize_normalize (s : String) : normalize (normalize s) = normalize s := by
  rw [normalize, toList_normalize, lower_trim, lower_lower, trim_trim]
  rfl

/-- Neither end of a normal form is a blank. -/
theorem not_isBlank_of_normalize {s : String} {c : Char}
    (h : (normalize s).toList.head? = some c ∨ (normalize s).toList.getLast? = some c) :
    isBlank c = false := by
  rw [toList_normalize] at h
  rcases h with h | h
  · exact head_trim h
  · exact getLast_trimEnd h

theorem lowered_trimmed (s : String) : Session.lowered (Session.trimmed s) = normalize s := by
  rw [Session.lowered, Session.trimmed, String.toList_ofList, lower_trim, normalize]

theorem normalize_trimmed (s : String) : normalize (Session.trimmed s) = normalize s := by
  rw [normalize, Session.trimmed, String.toList_ofList, lower_trim, trim_trim, normalize]

theorem trimmed_eq_empty_iff {s : String} : Session.trimmed s = "" ↔ normalize s = "" := by
  rw [← lowered_trimmed, Session.lowered, String.ofList_eq_empty_iff, lower,
    lowerFrom_eq_nil_iff, String.toList_eq_nil_iff]

namespace RuleTable

variable (t : RuleTable)

theorem translate_congr {a b : String} (h : normalize a = normalize b) :
    t.translate a = t.translate b := by
  rw [translate, translate, h]

theorem translate_trimmed (s : String) : t.translate (Session.trimmed s) = t.translate s :=
  t.translate_congr (normalize_trimmed s)

theorem translate_normalize (s : String) : t.translate (normalize s) = t.translate s :=
  t.translate_congr (normalize_normalize s)

theorem translationRecords_trimmed (settings : Settings) (s : String) :
    t.translationRecords settings (Session.trimmed s) = t.translationRecords settings s := by
  rw [translationRecords, translationRecords, normalize_trimmed]

end RuleTable

end Phrasebook
