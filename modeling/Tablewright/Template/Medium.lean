import Tablewright.Template.Check
import Tablewright.Value.Cells
import Tablewright.Value.Member

/-! How templates reach values, and why a template stops before its end. -/

namespace Tablewright.Template

/-- Why a template stops before its end. -/
inductive RunFault where
  /-- An operation cannot be carried out on the values it was given. -/
  | value (cause : Fault)
  | unknownFilter (name : String)
  | unknownTest (name : String)
  /-- A template to be inserted cannot be made. -/
  | unusable (cause : CompileFault)
  /-- Templates insert each other without end. -/
  | endless
  /-- The context uses a name that no context may use. -/
  | reservedName (name : String)
  deriving DecidableEq, Repr

/-- What is said of a template that stops before its end. -/
def RunFault.message : RunFault → String
  | .value cause => cause.message
  | .unknownFilter name => "No filter named " ++ Text.quoted name ++ " found."
  | .unknownTest name => "No test named " ++ Text.quoted name ++ " found."
  | .unusable cause => cause.message
  | .endless => "maximum recursion depth exceeded"
  | .reservedName name =>
    "Template.render() got multiple values for argument " ++ Text.quoted name

/-- A result of the operations on values, as part of a run. -/
def run (result : Except Fault α) : Except RunFault α := result.mapError .value

/-- How a template reaches values of a kind: what it makes of a plain value, how it looks at them
and at what they hold, and what becomes of one of their members that is called. -/
structure Medium (m : Type → Type) (α : Type) where
  /-- A plain value as one of the kind. -/
  leaf : Value → α
  /-- The plain value, with all that it holds. -/
  look : α → m Value
  /-- The plain values of several ones. -/
  lookAll : List α → m (List Value)
  elements : α → m (List α)
  member : String → α → m α
  element : Value → α → m α
  /-- What comes of calling the member of a name, which its holder may know as a method. -/
  send : (holder : α) → (name : String) → (member : α) → (arguments : List α) → m α

/-- The value of a name, which may be missing. -/
def Medium.named (medium : Medium m α) (scope : List (String × α)) (name : String) : α :=
  (lookup? name scope).getD (medium.leaf (.missing (.unbound name)))

end Tablewright.Template
