import Tablewright.Template.Medium
import Tablewright.Value.Same

/-! The value of an expression among named values. -/

namespace Tablewright.Template

/-- Whether two values are equal; a missing value cannot be compared. -/
def equal (a b : Value) : Except Fault Bool :=
  match a, b with
  | .missing what, _ | _, .missing what => throw (.missing what)
  | a, b => pure (a.same b)

/-- The result of a filter by its name. -/
def applyFilter (name : String) (subject : Value) (arguments : List Value) :
    Except RunFault Value :=
  match Filter.ofName? name with
  | some filter => run (filter.apply subject arguments)
  | none => throw (.unknownFilter name)

/-- The outcome of a test by its name. -/
def applyTest (name : String) (subject : Value) (arguments : List Value) :
    Except RunFault Value :=
  match Test.ofName? name with
  | some test => run (test.apply subject arguments)
  | none => throw (.unknownTest name)

section

variable {m : Type → Type} {α : Type} [Monad m] [MonadLiftT (Except RunFault) m]
  (medium : Medium m α)

mutual

/-- The value of an expression among named values. -/
def Expr.evalIn (scope : List (String × α)) : Expr → m α
  | .null => pure (medium.leaf .null)
  | .bool b => pure (medium.leaf (.bool b))
  | .int n => pure (medium.leaf (.int n))
  | .text s => pure (medium.leaf (.text s))
  | .named name => pure (medium.named scope name)
  | .member owner name => do medium.member name (← owner.evalIn scope)
  | .element owner key => do
    let value ← owner.evalIn scope
    let place ← key.evalIn scope
    medium.element (← medium.look place) value
  -- Members are called on what holds them; all else that is called stands for itself.
  | .call (.member owner name) arguments => do
    let holder ← owner.evalIn scope
    let member ← medium.member name holder
    let given ← evalAllIn scope arguments
    medium.send holder name member given
  | .call operation arguments => do
    let value ← operation.evalIn scope
    let given ← evalAllIn scope arguments
    return medium.leaf (← run (call (← medium.look value) (← medium.lookAll given)))
  | .filter name subject arguments => do
    let value ← subject.evalIn scope
    let given ← evalAllIn scope arguments
    return medium.leaf (← applyFilter name (← medium.look value) (← medium.lookAll given))
  | .test name subject arguments => do
    let value ← subject.evalIn scope
    let given ← evalAllIn scope arguments
    return medium.leaf (← applyTest name (← medium.look value) (← medium.lookAll given))
  | .not operand => do
    let value ← operand.evalIn scope
    return medium.leaf (.bool !(← run (← medium.look value).truth))
  -- A junction is the operand that decides it, and the other operand is left alone.
  | .and left right => do
    let value ← left.evalIn scope
    if ← run (← medium.look value).truth then right.evalIn scope else return value
  | .or left right => do
    let value ← left.evalIn scope
    if ← run (← medium.look value).truth then return value else right.evalIn scope
  | .compare first others => do evalComparedIn scope (← first.evalIn scope) others
  | .concat operands => do
    let values ← medium.lookAll (← evalAllIn scope operands)
    return medium.leaf (.text (String.join (← run (values.mapM Value.print))))
  | .choose condition whenTrue whenFalse => do
    let value ← condition.evalIn scope
    if ← run (← medium.look value).truth then whenTrue.evalIn scope else whenFalse.evalIn scope

/-- The values of expressions in a row. -/
def evalAllIn (scope : List (String × α)) : List Expr → m (List α)
  | [] => pure []
  | expr :: rest => do
    let value ← expr.evalIn scope
    return value :: (← evalAllIn scope rest)

/-- Whether all comparisons of neighbours hold; those behind a failed one are left alone. -/
def evalComparedIn (scope : List (String × α)) (left : α) : List (Bool × Expr) → m α
  | [] => pure (medium.leaf (.bool true))
  | (wantsEqual, expr) :: rest => do
    let right ← expr.evalIn scope
    if (← run (equal (← medium.look left) (← medium.look right))) == wantsEqual then
      evalComparedIn scope right rest
    else return medium.leaf (.bool false)

end

end

end Tablewright.Template
