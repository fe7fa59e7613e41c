import Tablewright.Log.Entry
import Tablewright.Value.Access
import Tablewright.Value.Written

/-! Setting up where reports go, and which of them are heard. -/

namespace Tablewright

/-- What reports are handed to. -/
inductive Handler where
  /-- Reports in colour, with nothing but their message. -/
  | rich
  /-- Reports with their time, logger and level. -/
  | stream
  deriving DecidableEq, Repr

/-- The kind of a handler by name. -/
def Handler.name : Handler → String
  | .rich => "RichHandler"
  | .stream => "StreamHandler"

/-- The form that a handler gives to reports. -/
def Handler.format : Handler → String
  | .rich => "%(message)s"
  | .stream => "%(asctime)s %(name)s %(levelname)s %(message)s"

/-- How the logger above all others is set up. -/
structure LogSetup where
  level : Value := .int 0
  /-- Whether reports are passed on to whoever else listens. -/
  propagate : Bool := true
  handlers : List Handler := []

/-- Why a logger cannot be set up or asked. -/
inductive LogFault where
  | value (cause : Fault)
  /-- No level goes by this name. -/
  | unknownLevel (name : String)
  /-- A value, as it shows, is no level. -/
  | noLevel (shown : String)
  /-- Values of this kind are neither above a level nor below one. -/
  | noOrder (kind : Kind)
  /-- More arguments than a setup takes. -/
  | surplus (given : Nat)
  deriving DecidableEq, Repr

/-- What is said of a logger that cannot be set up or asked. -/
def LogFault.message : LogFault → String
  | .value cause => cause.message
  | .unknownLevel name => "Unknown level: " ++ Text.quoted name
  | .noLevel shown => "Level not an integer or a valid string: " ++ shown
  | .noOrder kind => "'>=' not supported between instances of 'int' and '" ++ kind.name ++ "'"
  | .surplus given =>
    "setup_logging() takes from 0 to 2 positional arguments but " ++ toString given ++ " were given"

/-- The levels by name. -/
def levelNames : List (String × Int) :=
  [("CRITICAL", 50), ("FATAL", 50), ("ERROR", 40), ("WARN", 30), ("WARNING", 30), ("INFO", 20),
    ("DEBUG", 10), ("NOTSET", 0)]

/-- The level that stands where none is set. -/
def fallbackLevel : Value := .int 30

/-- The level that a value names or is. -/
def levelOf : Value → Except LogFault Value
  | .text name =>
    match lookup? name levelNames with
    | some level => pure (.int level)
    | none => throw (.unknownLevel name)
  -- A number is a level by itself, and a truth value is a number.
  | .int n => pure (.int n)
  | .bool b => pure (.bool b)
  | .missing what => throw (.value (.missing what))
  | value => throw (.noLevel value.shown)

/-- The kind of handler that is asked for. -/
def handlerFor (rich : Bool) : Handler := if rich then .rich else .stream

/-- The name of a logger: below the one above all others, unless it is there already. -/
def loggerName (name : String) : String :=
  let below := rootLogger ++ "."
  if name = rootLogger ∨ below.toList.isPrefixOf name.toList then name else below ++ name

/-- The name of a logger that is asked for by a value. -/
def loggerNameOf (name : Value) : Except Fault String := do
  return loggerName (← name.asText "startswith")

end Tablewright
