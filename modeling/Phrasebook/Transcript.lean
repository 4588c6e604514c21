import Phrasebook.Execution
import Phrasebook.Failure

/-!
# Commands

A command is a function to the transcript of what it did: everything it showed, in order, every call
of the interpreter it made, the exit code it asks for, and its result or the failure that ended it.

What a command writes to the console and to the exit code of the process is part of what it returns
here.
-/

namespace Phrasebook

/-- What a command did. -/
structure Transcript (α : Type) where
  events : List Console.Event
  calls : List Call := []
  exitCode : Nat := 0
  result : Except Failure α

namespace Transcript

/-- Everything that is shown until the program ends: a failure is reported last. -/
def allEvents {α : Type} (t : Transcript α) : List Console.Event :=
  match t.result with
  | .ok _ => t.events
  | .error e => t.events ++ e.report

/-- The exit code of the program. -/
def finalExitCode {α : Type} (t : Transcript α) : Nat :=
  match t.result with
  | .ok _ => t.exitCode
  | .error _ => Failure.exitCode

end Transcript

end Phrasebook
