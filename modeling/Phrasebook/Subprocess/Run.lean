import Phrasebook.Subprocess.BoundedOutput

/-!
# The run of a process

A process is observed through events: chunks on its two output streams, the deadline that passes,
the failure to start or control it, and its end once both streams are closed. The first failure or
end settles the run. Events may come after that, but a run that is settled keeps its result. At the
deadline the process is killed, and the run goes on until it has ended.

`settle` models the promise of `createSpawnRunner`, whose callbacks are the cases of `step`. Which
process is started, and when its events come, is left to the list of events.
-/

namespace Phrasebook.Subprocess

/-- What a finished process left behind. The exit code is missing if a signal ended it. -/
structure Outcome where
  exitCode : Option Int := some 0
  stdout : String := ""
  stderr : String := ""
  timedOut : Bool := false
  truncated : Bool := false
  deriving DecidableEq, Repr

/-- Something that is seen of a process. -/
inductive Event where
  | stdout (chunk : List UInt8)
  | stderr (chunk : List UInt8)
  /-- The time allowed for the process is over. -/
  | deadline
  /-- The process could not be started or controlled. -/
  | failed (message : String)
  /-- The process has ended and its streams are closed. -/
  | closed (exitCode : Option Int)
  deriving DecidableEq, Repr

/-- The state of a run. -/
structure Running where
  stdout : BoundedOutput
  stderr : BoundedOutput
  /-- The deadline passed while it was waited for. -/
  timedOut : Bool := false
  /-- The deadline is no longer waited for. -/
  timerCleared : Bool := false
  /-- The outcome or the message of the failure, once the run is settled. -/
  result : Option (Except String Outcome) := none

namespace Running

/-- A process of which nothing has been seen, with a limit for each of its streams. -/
def start (limit : Int) : Running := { stdout := { limit }, stderr := { limit } }

/-- The outcome if the process ends now. -/
def outcome (r : Running) (exitCode : Option Int) : Outcome where
  exitCode := exitCode
  stdout := r.stdout.text
  stderr := r.stderr.text
  timedOut := r.timedOut
  truncated := r.stdout.truncated || r.stderr.truncated

/-- Stops waiting for the deadline, and settles the run if it is not settled. -/
def settleWith (r : Running) (result : Except String Outcome) : Running :=
  { r with timerCleared := true, result := r.result.or (some result) }

/-- What an event does to a run. -/
def step (r : Running) : Event → Running
  | .stdout chunk => { r with stdout := r.stdout.push chunk }
  | .stderr chunk => { r with stderr := r.stderr.push chunk }
  | .deadline => if r.timerCleared then r else { r with timedOut := true }
  | .failed message => r.settleWith (.error message)
  | .closed exitCode => r.settleWith (.ok (r.outcome exitCode))

/-- The state after events in order. -/
def run (r : Running) (events : List Event) : Running := events.foldl step r

end Running

/-- The result of a run that shows the given events, with a limit for each stream, or nothing if
they do not settle it. -/
def settle (limit : Int) (events : List Event) : Option (Except String Outcome) :=
  ((Running.start limit).run events).result

end Phrasebook.Subprocess
