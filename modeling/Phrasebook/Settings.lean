import Phrasebook.Log
import Phrasebook.Number.Binary64
import Phrasebook.Text.Digits

/-!
# Settings

The settings come from four environment variables. A variable that is unset, empty or malformed
gives the default. Settings are read once and kept until they are reset, whatever happens to the
environment in between.

Models `ConfigService`: `ofEnvironment` is its constructor with `parseLogLevel` and `parseTimeout`,
`read` is `getInstance`, and `reset` is `resetForTesting`.
-/

namespace Phrasebook

/-- The variables of an environment. -/
abbrev Environment := List (String × String)

namespace Environment

def get? (env : Environment) (name : String) : Option String :=
  (env.find? (·.1 == name)).map (·.2)

def unset (env : Environment) (name : String) : Environment := env.filter (·.1 != name)

def set (env : Environment) (name value : String) : Environment :=
  (name, value) :: env.unset name

end Environment

/-- The settings of the program. -/
structure Settings where
  /-- Log records below this level are dropped. -/
  logLevel : Log.Level
  /-- Every match decision is logged at a level that is shown by default. -/
  traceMatches : Bool
  /-- The Python interpreter. -/
  interpreter : String
  /-- The time that a snippet may run, in milliseconds. -/
  timeout : Binary64
  deriving DecidableEq

namespace Settings

def logLevelVariable : String := "LOG_LEVEL"
def traceVariable : String := "NLCODE_TRACE"
def interpreterVariable : String := "NLCODE_PYTHON"
def timeoutVariable : String := "NLCODE_EXEC_TIMEOUT_MS"

def defaultInterpreter : String := "python3"
def defaultTimeout : Binary64 := .ofNat 5000

/-- The level with a name, in any letter case; any other name means `info`. No character outside
ASCII has an upper-case form within these names. -/
def levelOf (name : Option String) : Log.Level :=
  match (name.getD "").toList.map Char.toUpper with
  | ['D', 'E', 'B', 'U', 'G'] => .debug
  | ['W', 'A', 'R', 'N'] => .warn
  | ['E', 'R', 'R', 'O', 'R'] => .error
  | _ => .info

/-- The time that digits denote, if it is above zero; any other text means the default. -/
def timeoutOf (text : Option String) : Binary64 :=
  match Text.ofDigits? 10 (text.getD "").toList with
  | some n => if (Binary64.ofNat n).isPositive then .ofNat n else defaultTimeout
  | none => defaultTimeout

/-- The interpreter with a name; the empty name means the default. -/
def interpreterOf (name : Option String) : String :=
  if name.getD "" = "" then defaultInterpreter else name.getD ""

/-- The settings that an environment asks for. -/
def ofEnvironment (env : Environment) : Settings where
  logLevel := levelOf (env.get? logLevelVariable)
  traceMatches := env.get? traceVariable == some "1"
  interpreter := interpreterOf (env.get? interpreterVariable)
  timeout := timeoutOf (env.get? timeoutVariable)

/-- The logger of a component. -/
def logger (s : Settings) (component : String) : Log.Logger := ⟨component, s.logLevel⟩

example : levelOf (some "eRRor") = .error ∧ levelOf (some "warning") = .info := by decide

example : timeoutOf (some "00") = defaultTimeout ∧ timeoutOf (some "0250") = .ofNat 250 ∧
    timeoutOf (some "+5") = defaultTimeout := by decide +kernel

end Settings

/-- An environment with the settings that were read from it, if they have been since the last
reset. -/
structure Configuration where
  environment : Environment := []
  kept : Option Settings := none

namespace Configuration

def set (c : Configuration) (name value : String) : Configuration :=
  { c with environment := c.environment.set name value }

def unset (c : Configuration) (name : String) : Configuration :=
  { c with environment := c.environment.unset name }

/-- Forgets the settings that were read. -/
def reset (c : Configuration) : Configuration := { c with kept := none }

/-- The settings: those that are kept, else those of the environment, which are then kept. -/
def read (c : Configuration) : Settings × Configuration :=
  let s := c.kept.getD (.ofEnvironment c.environment)
  (s, { c with kept := some s })

end Configuration

end Phrasebook
