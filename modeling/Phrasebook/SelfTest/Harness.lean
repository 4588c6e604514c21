import Phrasebook.Diagnostic.Display
import Phrasebook.SelfTest.CaseFile
import Phrasebook.Translation

/-!
# Self-tests

A self-test translates the instruction of each case and looks for the expected text in the result. A
case whose instruction is malformed fails, whatever its diagnostic says. Each outcome depends on its
own case alone.

`run` models `runSelfTest`, and `runCase` models `runCase`. The function that translates is that of
a table.
-/

namespace Phrasebook.SelfTest

/-- The text contains another one as a contiguous part. -/
def contains (part : List Char) : List Char → Bool
  | [] => part.isEmpty
  | c :: s => part.isPrefixOf (c :: s) || contains part s

/-- What became of a case. -/
structure Outcome where
  instruction : String
  expected : String
  actual : String
  passed : Bool
  deriving DecidableEq, Repr

/-- The outcomes of all cases, in their order. -/
structure Report where
  outcomes : List Outcome
  deriving DecidableEq, Repr

namespace Report

def passed (r : Report) : Nat := r.outcomes.countP (·.passed)

def failed (r : Report) : Nat := r.outcomes.length - r.passed

end Report

/-- The outcome of a case. It fails only for rules whose snippets do not fit their triggers. -/
def runCase (rules : RuleTable) (c : Case) : Except SnippetError Outcome :=
  match rules.translate c.instruction with
  | .ok t => .ok ⟨c.instruction, c.expected, t.text, contains c.expected.toList t.text.toList⟩
  | .error (.synthesis _ d) => .ok ⟨c.instruction, c.expected, d.headline, false⟩
  | .error (.broken e) => .error e

/-- The outcomes of cases in order, up to the first one that cannot be run. -/
def runCases (rules : RuleTable) : List Case → Except SnippetError (List Outcome)
  | [] => .ok []
  | c :: cs =>
    match runCase rules c with
    | .error e => .error e
    | .ok o =>
      match runCases rules cs with
      | .error e => .error e
      | .ok os => .ok (o :: os)

/-- Runs all cases. -/
def run (rules : RuleTable) (cs : List Case) : Except SnippetError Report :=
  (runCases rules cs).map Report.mk

/-- The log records of a run. -/
def runRecords (rules : RuleTable) (settings : Settings) (cs : List Case) : List Log.Record :=
  cs.flatMap fun c => rules.translationRecords settings c.instruction

end Phrasebook.SelfTest
