import Tablewright.Generation.Renderer
import Tablewright.Registry
import Tablewright.Table

/-! Source for targets, where a target goes by the name of its template.

The targets of a batch share their values, and a template can change what its successors see. What
a caller still holds of these values after a run is not followed. -/

namespace Tablewright

/-- What source is generated from: the description of a table, or the values themselves. -/
inductive Subject where
  | table (data : TableData)
  | values (context : Context)

/-- The values that templates see of a subject. -/
def Subject.context : Subject → Except Fault Context
  | .table data => data.context
  | .values context => pure context

/-- The values that templates see of a subject, kept in cells of their own. -/
def Subject.holding (subject : Subject) : Except Fault Holding := do
  return .ofContext (← subject.context)

/-- Why a target cannot be generated. -/
inductive TargetFault where
  | notFound (name : String)
  | render (cause : RenderFault)
  deriving DecidableEq, Repr

/-- What is said of the cause of a target that cannot be generated. -/
def TargetFault.message : TargetFault → String
  | .notFound name => (Registry.ResolveFault.notFound name).message
  | .render cause => cause.message

/-- How generation fails. -/
inductive GenerationFault where
  /-- A target cannot be generated. -/
  | target (name : String) (cause : TargetFault)
  | escape (cause : Escape)
  deriving DecidableEq, Repr

/-- What is said of failed generation. -/
def GenerationFault.message : GenerationFault → String
  | .target name cause => "Unable to generate " ++ name ++ ": " ++ cause.message
  | .escape cause => cause.message

/-- Generates source with the templates of a registry. -/
structure Generator where
  registry : Registry
  renderer : Renderer
  shelves : Shelves

/-- A failed check of a value, passed on. -/
def checked (result : Except Fault α) : Traced GenerationFault α :=
  .ofExcept (result.mapError fun cause => .escape (.value cause))

/-- Reports a target that cannot be generated. -/
def targetFailed (target : String) (cause : TargetFault) : Traced GenerationFault α := do
  Traced.report .error .generator ("Generation of " ++ target ++ " failed: " ++ cause.message)
  Traced.fail (.target target cause)

/-- Goes on from a name without a template. -/
def resolveFailed : Registry.ResolveFault → Traced GenerationFault α
  | .value cause => .fail (.escape (.value cause))
  | .notFound name => targetFailed name (.notFound name)

/-- The fault of a target that a formatter takes for its own, if it does. -/
def FormatFault.ofTarget? : FormatFault → Option TargetFault
  | .rendering stage reason => some (.render (.raised stage reason))
  | .notFound name => some (.notFound name)
  | .refused _ | .failed .. | .noCommand _ => none

/-- Goes on from a failure that rendering passed on; faults of targets are told as such, whoever
they come from. -/
def escaped (target : String) : Escape → Traced GenerationFault α
  | .formatter cause =>
    match cause.ofTarget? with
    | some own => targetFailed target own
    | none => .fail (.escape (.formatter cause))
  | cause => .fail (.escape cause)

/-- Goes on from failed rendering. -/
def renderFailed (target : String) : RenderFailure → Traced GenerationFault α
  | .fault cause => targetFailed target (.render cause)
  | .escape cause => escaped target cause

/-- What is reported of generated source. -/
def generatedMessage (target : String) (size : Nat) : String :=
  "Generated " ++ target ++ " (" ++ toString size ++ " bytes)"

/-- The source of one target among held values, and what its template leaves of them. -/
def Generator.generateAmong (generator : Generator) (target : Value)
    (holding : Except Fault Holding) : Traced GenerationFault (ByteArray × Holding) := do
  -- The template is looked up before the values are looked at.
  let template ← (generator.registry.resolve target).onError resolveFailed
  let holding ← checked holding
  let (output, left) ← (generator.renderer.renderAmong generator.shelves template holding).onError
    (renderFailed target.inMessage)
  Traced.report .info .generator (generatedMessage target.inMessage output.size)
  return (output, left)

/-- The source of one target. -/
def Generator.generate (generator : Generator) (target : Value) (subject : Subject) :
    Traced GenerationFault ByteArray := do
  let (output, _) ← generator.generateAmong target subject.holding
  return output

/-- The sources of targets, each among the values as those before it leave them; the first failure
ends it all. -/
def Generator.generateEach (generator : Generator) (holding : Holding) :
    List Value → List (String × ByteArray) → Traced GenerationFault (List (String × ByteArray))
  | [], done => return done
  | target :: rest, done => do
    let (output, left) ← generator.generateAmong target (.ok holding)
    generator.generateEach left rest (assign target.inMessage output done)

/-- The sources of several targets, each target once, in the order they first come in. All of them
share one and the same values, which are put together before the first target. -/
def Generator.generateAll (generator : Generator) (targets : Value) (subject : Subject) :
    Traced GenerationFault (List (String × ByteArray)) := do
  let holding ← checked subject.holding
  let names ← checked targets.elements
  generator.generateEach holding names []

end Tablewright
