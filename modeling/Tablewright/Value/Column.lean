import Tablewright.Value.Access
import Tablewright.Value.Same

/-! Columns as values: their parts are read by name and never change. -/

namespace Tablewright

/-- The part of a column under a key that is still unchecked, or a default. -/
def Value.columnPartOf (column key default : Value) : Except Fault Value := do
  match column, key with
  | column, .text name => return column.columnPart name default
  | .record _, key =>
    key.lookupKey
    return default
  | _, key => throw (.memberNotText key.kind)

/-- Why a part of a column cannot be set. -/
inductive FrozenFault where
  /-- No part of a column can be set. -/
  | frozen (name : String)
  | value (cause : Fault)
  deriving DecidableEq, Repr

/-- What is said of a part that cannot be set. -/
def FrozenFault.message : FrozenFault → String
  | .frozen name => "cannot assign to field " ++ Text.quoted name
  | .value cause => cause.message

/-- Why the part under a key cannot be set; there is always a reason. -/
def frozenPart : Value → FrozenFault
  | .text name => .frozen name
  | key => .value (.memberNotText key.kind)

end Tablewright
