import Phrasebook.SelfTest.Bundled
import Phrasebook.SelfTest.Harness
import Phrasebook.Transcript

/-!
# Checking a case file

The cases of a file, or the bundled ones, are run and their outcomes shown in order. The exit code
is 1 exactly when a case failed. A file that cannot be used is a failure that carries its
diagnostics.

`check` models `selftestCommand`. What loading the file gave is an argument.
-/

namespace Phrasebook.Command

open SelfTest (Case Outcome Report)

/-- What is shown for an outcome. The generated code of a case that passed is shown on request. -/
def outcomeEvents (verbose : Bool) (o : Outcome) : List Console.Event :=
  if o.passed then
    Console.success o.instruction :: if verbose then [Console.plain o.actual] else []
  else
    [Console.error o.instruction,
     Console.plain s!"  expected to contain: {Json.quote o.expected}",
     Console.plain s!"  generated:           {Json.quote o.actual}"]

/-- What is shown for a report. -/
def reportEvents (verbose : Bool) (r : Report) : List Console.Event :=
  r.outcomes.flatMap (outcomeEvents verbose) ++
    [Console.divider, Console.info s!"{r.passed} passed, {r.failed} failed"]

/-- Runs the cases that loading a file gave. -/
def check (settings : Settings) (verbose : Bool)
    (loaded : Except (List Diagnostic) (List Case)) : Transcript Report :=
  match loaded with
  | .error ds => { events := [], result := .error (.ofDiagnostics ds) }
  | .ok cases =>
    let records := Console.records (SelfTest.runRecords standardRules settings cases)
    match SelfTest.run standardRules cases with
    | .error e => { events := records, result := .error (.ofTranslationError (.broken e)) }
    | .ok r =>
      { events := records ++ reportEvents verbose r
        exitCode := if r.failed = 0 then 0 else 1
        result := .ok r }

end Phrasebook.Command
