import Phrasebook.Log

/-!
# The console

What the program shows is a list of events: lines on one of three streams, and log records, which go
to the error stream. Messages for people carry a coloured symbol; generated code and the output of
snippets are shown as they are.

Models `info`, `success`, `warn`, `error`, `divider`, `code` and `raw`, where `code` is `plain` and
`raw` is `output`.
-/

namespace Phrasebook.Console

/-- The streams of the console. Only `log` reaches standard output. -/
inductive Stream where
  | log
  | warn
  | error
  deriving DecidableEq, Repr

/-- Something shown. -/
inductive Event where
  | line (stream : Stream) (text : String)
  | record (r : Log.Record)

namespace Event

/-- The stream that an event is shown on. -/
def stream : Event → Stream
  | .line stream _ => stream
  | .record _ => .error

/-- The text of an event, without the line feed at its end; `time` is written into log records. -/
def text (time : String) : Event → String
  | .line _ text => text
  | .record r => r.render time

end Event

/-- The events of log records. -/
def records (rs : List Log.Record) : List Event := rs.map .record

/-! ## Messages -/

/-- The sequence that sets the colour or weight of what follows. -/
def style (code : String) : String := s!"\x1b[{code}m"

/-- A message behind a coloured symbol. -/
def marked (symbol code message : String) : String :=
  style code ++ symbol ++ style "0" ++ " " ++ message

def info (message : String) : Event := .line .log (marked "ℹ" "36" message)
def success (message : String) : Event := .line .log (marked "✓" "32" message)
def warn (message : String) : Event := .line .warn (marked "⚠" "33" message)
def error (message : String) : Event := .line .error (marked "✗" "31" message)

/-- A dim horizontal line. -/
def divider : Event :=
  .line .log (style "2" ++ String.ofList (List.replicate 40 '-') ++ style "0")

/-- A text as it is. -/
def plain (text : String) : Event := .line .log text

/-- The output of a snippet: nothing if it is empty, else without one line feed at its end. -/
def output (text : String) : List Event :=
  if text = "" then []
  else if text.toList.getLast? = some '\n' then [plain (String.ofList text.toList.dropLast)]
  else [plain text]

end Phrasebook.Console
