import Phrasebook.Console

/-!
# Messages

The stream and the text of the messages that are shown: a coloured mark with the message, a dim
line, or a text as it is.

Results:
* `marked_eq`: a message stands behind its mark.
* `success_eq`, `warn_eq`, `error_eq`, `divider_eq`, `plain_eq`: the messages.
-/

namespace Phrasebook.Console

variable (message : String)

/-- A message stands behind its mark: the symbol in its colour, and a space. -/
theorem marked_eq {symbol code mark : String}
    (hmark : style code ++ symbol ++ style "0" ++ " " = mark) :
    marked symbol code message = mark ++ message := by
  rw [marked, hmark]

theorem success_eq : success message = .line .log ("\x1b[32m✓\x1b[0m " ++ message) :=
  congrArg (Event.line .log) (marked_eq message (by decide))

theorem warn_eq : warn message = .line .warn ("\x1b[33m⚠\x1b[0m " ++ message) :=
  congrArg (Event.line .warn) (marked_eq message (by decide))

theorem error_eq : error message = .line .error ("\x1b[31m✗\x1b[0m " ++ message) :=
  congrArg (Event.line .error) (marked_eq message (by decide))

theorem divider_eq :
    divider = .line .log "\x1b[2m----------------------------------------\x1b[0m" := by
  rw [divider]
  congr 1

theorem plain_eq : plain message = .line .log message := rfl

end Phrasebook.Console
