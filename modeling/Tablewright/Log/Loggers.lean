import Tablewright.Log.Setup
import Tablewright.Value.Same

/-! Loggers by name: which of them there are, what stands above each, and which levels they hear. -/

namespace Tablewright

/-- The loggers of the package's own places, which are there from the start. -/
def packageLoggers : List String :=
  [Origin.package, .templates, .renderer, .formatter, .generator, .target].map Origin.logger

/-- The loggers above one, from the nearest up; its name is spelled backwards. -/
def loggersAbove (loggers : List String) : List Char → List String
  | [] => []
  | c :: before =>
    if c = '.' then
      match before with
      | [] => []
      | d :: earlier =>
        let name := String.ofList (d :: earlier).reverse
        if name ∈ loggers then name :: loggersAbove loggers (d :: earlier)
        -- The search for a dot goes on in front of the next code point, which may be one itself.
        else loggersAbove loggers earlier
    else loggersAbove loggers before

/-- What a logger answered when it was asked whether it hears reports of a level. -/
structure Hearing where
  logger : String
  level : Value
  heard : Bool

/-- All loggers: how the one above all others is set up, which there are, and what they answered. -/
structure Logging where
  root : LogSetup := {}
  loggers : List String := packageLoggers
  /-- Answers since the last level was set; they are not thought over again. -/
  hearings : List Hearing := []

namespace Logging

/-- A step that may fail after having changed something. -/
abbrev Step := ExceptT LogFault (StateM Logging)

/-- A result, as a step. -/
def lifted (result : Except LogFault α) : Step α := ExceptT.mk (pure result)

/-- Sets the level of the logger above all others, and then a single handler. -/
def setUp (level rich : Value) : Step Unit := do
  let level ← lifted (levelOf level)
  modify fun logging =>
    { logging with root := { logging.root with level := level }, hearings := [] }
  modify fun logging =>
    let handlers := logging.root.handlers
    { logging with root := { logging.root with handlers := handlers.foldl List.erase handlers } }
  -- The old handlers are gone by the time the flag is looked at, which may fail.
  let isRich ← lifted (rich.truth.mapError .value)
  modify fun logging =>
    let handlers := logging.root.handlers ++ [handlerFor isRich]
    { logging with root := { logging.root with handlers := handlers, propagate := false } }

/-- Sets up with up to two arguments; those left out have their usual values. -/
def setUpWith : List Value → Step Unit
  | [] => setUp fallbackLevel (.bool true)
  | [level] => setUp level (.bool true)
  | [level, rich] => setUp level rich
  | arguments => throw (.surplus arguments.length)

/-- The loggers with one of a name among them. -/
def having (logging : Logging) (name : String) : Logging :=
  if name ∈ logging.loggers then logging
  else { logging with loggers := name :: logging.loggers }

/-- The name of the logger that is asked for, which is there from then on. -/
def logger (name : Value) : Step String := do
  let name ← lifted ((loggerNameOf name).mapError .value)
  modify fun logging => logging.having name
  return name

/-- The level that is set for a logger; only the one above all others ever gets one. -/
def levelAt (logging : Logging) (name : String) : Value :=
  if name = rootLogger then logging.root.level else .int 0

/-- A level that is not zero. -/
def isSet (level : Value) : Bool :=
  match level.truth with
  | .ok true => true
  | _ => false

/-- The level that counts for a logger: the first one set on the way up, or the fallback. -/
def effective (logging : Logging) (name : String) : Value :=
  let way := name :: loggersAbove logging.loggers name.toList.reverse
  ((way.map logging.levelAt).find? isSet).getD fallbackLevel

/-- Whether a number is above zero and not below another one. -/
def reaches (level : Value) (limit : Value) : Bool :=
  match level.number?, limit.number? with
  | some number, some least => (Exact.fraction 0 1).less number && !number.less least
  | _, _ => false

/-- Whether a logger hears reports of a level: it is above zero, and not below what counts. -/
def hears (name : String) (level : Value) : Step Bool := do
  lifted (level.lookupKey.mapError .value)
  let logging ← get
  match logging.hearings.find? fun given => given.logger = name && given.level.same level with
  -- An answer is kept until a level is set, even when what counts has changed since.
  | some given => return given.heard
  | none =>
    match level.kind with
    | .bool | .int | .float =>
      let heard := reaches level (logging.effective name)
      set { logging with hearings := ⟨name, level, heard⟩ :: logging.hearings }
      return heard
    | kind => throw (.noOrder kind)

end Logging

end Tablewright
