/-! What a run reports about itself, and the places that the reports come from. -/

namespace Tablewright

/-- How much a report matters. -/
inductive Level where
  | debug
  | info
  | warning
  | error
  deriving DecidableEq, Repr

/-- The name of a level. -/
def Level.name : Level → String
  | .debug => "DEBUG"
  | .info => "INFO"
  | .warning => "WARNING"
  | .error => "ERROR"

/-- The logger above all others. -/
def rootLogger : String := "boilergen"

/-- The places that reports come from. -/
inductive Origin where
  | package
  | templates
  | renderer
  | formatter
  | generator
  | target
  deriving DecidableEq, Repr

/-- The name of the logger of a place. -/
def Origin.logger : Origin → String
  | .package => rootLogger
  | .templates => rootLogger ++ ".core.templates"
  | .renderer => rootLogger ++ ".core.renderer"
  | .formatter => rootLogger ++ ".core.formatting"
  | .generator => rootLogger ++ ".core.generator"
  | .target => rootLogger ++ ".languages.go.generator"

/-- One report. -/
structure LogEntry where
  level : Level
  origin : Origin
  message : String
  deriving DecidableEq, Repr

end Tablewright
