import Tablewright.Formatter.Basic
import Tablewright.Template.Shelf
import Tablewright.Text.Encoding

/-! Finished source from a template and a context: all of it, or none. -/

namespace Tablewright

/-- Why a template gives no source. -/
inductive RenderFault where
  /-- The template stops before its end. -/
  | execution (cause : Template.RunFault)
  /-- The formatter refuses what the template gives. -/
  | refused (message : String)
  /-- The formatter itself fails by a fault of this kind. -/
  | raised (stage : Stage) (reason : String)
  deriving DecidableEq, Repr

/-- What is said of a template that gives no source. -/
def RenderFault.message : RenderFault → String
  | .execution cause => Stage.execution.failure cause.message
  | .refused message => Stage.canonicalize.failure message
  | .raised stage reason => stage.failure reason

/-- Failures that are passed on as they are. -/
inductive Escape where
  | value (cause : Fault)
  | encoding (cause : Text.EncodingFault)
  | formatter (cause : FormatFault)
  deriving DecidableEq, Repr

/-- What is said of a failure that is passed on. -/
def Escape.message : Escape → String
  | .value cause => cause.message
  | .encoding cause => cause.message
  | .formatter cause => cause.message

/-- How rendering fails. -/
inductive RenderFailure where
  | fault (cause : RenderFault)
  | escape (cause : Escape)
  deriving DecidableEq, Repr

/-- The encoding of source unless another one is asked for. -/
def defaultEncoding : Text.Encoding := Text.encode "utf-8"

/-- Renders templates in an encoding and hands them to a formatter. -/
structure Renderer where
  formatter : Formatter
  encoding : Text.Encoding := defaultEncoding

/-- Reports a template that stopped before its end. -/
def executionFailed (file : String) (cause : Template.RunFault) : Traced RenderFailure α := do
  Traced.report .debug .renderer
    ("Template " ++ file ++ " failed to execute: " ++ cause.message)
  Traced.fail (.fault (.execution cause))

/-- Reports refused source; other failures of a formatter are passed on. -/
def formatFailed (file : String) : FormatFault → Traced RenderFailure α
  | .refused message => do
    Traced.report .debug .renderer
      ("Output of template " ++ file ++ " is not valid source: " ++ message)
    Traced.fail (.fault (.refused message))
  | cause => .fail (.escape (.formatter cause))

/-- The finished source of a text that a template gives. -/
def Renderer.finish (renderer : Renderer) (file text : String) : Traced RenderFailure ByteArray :=
  match renderer.encoding text with
  | .error cause => .fail (.escape (.encoding cause))
  | .ok source => (renderer.formatter source).counted.onError (formatFailed file)

/-- The finished source that a template gives among held values, and what it leaves of them. -/
def Renderer.renderAmong (renderer : Renderer) (shelves : Shelves) (template : Template)
    (holding : Holding) : Traced RenderFailure (ByteArray × Holding) :=
  match template.textAmong shelves holding with
  | .error cause => executionFailed template.file cause
  | .ok (text, left) => do return (← renderer.finish template.file text, left)

/-- The finished source that a template gives among the values of a context. -/
def Renderer.render (renderer : Renderer) (shelves : Shelves) (template : Template)
    (context : Context) : Traced RenderFailure ByteArray := do
  let (output, _) ← renderer.renderAmong shelves template (.ofContext context)
  return output

end Tablewright
