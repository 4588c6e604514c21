import Phrasebook.Json.Printer

/-!
# Structured log records

A log record is one JSON object on one line: its level, the time, the component that wrote it, its
message, and the details of the event. Details with the key of an earlier member replace the value
of that member in its place. A logger drops the records below its least level.

Models `Logger`: `log` and `logError` return the records that its methods write, and a record is
written with the text of a time.
-/

namespace Phrasebook.Log

/-- The levels of importance, from the lowest to the highest. -/
inductive Level where
  | debug
  | info
  | warn
  | error
  deriving DecidableEq, Repr

namespace Level

def name : Level → String
  | .debug => "DEBUG"
  | .info => "INFO"
  | .warn => "WARN"
  | .error => "ERROR"

/-- The place of a level in the order of importance. -/
def rank : Level → Nat
  | .debug => 0
  | .info => 1
  | .warn => 2
  | .error => 3

end Level

/-- One event, as it is logged. -/
structure Record where
  level : Level
  component : String
  message : String
  details : Json.Members

namespace Record

/-- The members of the written record; `time` is the text of the time at which it is written. -/
def members (r : Record) (time : String) : Json.Members :=
  Json.Members.putAll
    [("level", .string r.level.name), ("timestamp", .string time),
     ("component", .string r.component), ("message", .string r.message)]
    r.details

/-- The line of the record. -/
def render (r : Record) (time : String) : String := (Json.object (r.members time)).render

end Record

/-- A source of records of one component. -/
structure Logger where
  component : String
  least : Level := .info

/-- An error that a record is about. -/
structure Cause where
  message : String
  stack : String

namespace Logger

/-- Records of a level are kept. -/
def isEnabled (l : Logger) (level : Level) : Bool := l.least.rank ≤ level.rank

/-- The record of an event, if its level is kept. -/
def log (l : Logger) (level : Level) (message : String) (details : Json.Members) : List Record :=
  if l.isEnabled level then [⟨level, l.component, message, details⟩] else []

/-- The record of an error: its message and stack come before the details, which may replace
them. -/
def logError (l : Logger) (message : String) (cause : Option Cause) (details : Json.Members) :
    List Record :=
  match cause with
  | none => l.log .error message details
  | some c =>
    l.log .error message
      (Json.Members.putAll [("error", .string c.message), ("stack", .string c.stack)] details)

end Logger

end Phrasebook.Log
