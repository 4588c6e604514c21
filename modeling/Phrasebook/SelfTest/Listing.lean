import Phrasebook.Failure
import Phrasebook.SelfTest.CaseFile

/-!
# Lists of cases

Loading a case file answers with one list of objects: the cases, or the diagnostics of what is wrong
with the file. Which of the two it is shows in the objects themselves, since each case has an
instruction and no diagnostic has one.

Models `isCaseList`.
-/

namespace Phrasebook.SelfTest

/-- The value that loading a case file answers with. -/
def answerOf : Loaded → Json Text.Points
  | .ok data => data
  | .error ds => .array (ds.map fun d => d.toJson.points)

/-- The value is an object with a key. -/
def hasMember (key : String) : Json Text.Points → Bool
  | .object ms => (Json.Members.get? ms (Text.points key)).isSome
  | _ => false

/-- The value is a list whose objects all have an instruction. -/
def isCaseList : Json Text.Points → Bool
  | .array items => items.all (hasMember instructionKey)
  | _ => false

end Phrasebook.SelfTest
