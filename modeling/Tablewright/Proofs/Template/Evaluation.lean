import Tablewright.Proofs.Outcome
import Tablewright.Proofs.Template.Plain

/-! Rules by which expressions are evaluated, for operands that have a value. -/

namespace Tablewright.Template

/-- A success stays one inside a template. -/
@[simp] theorem run_ok (value : α) : run (.ok value) = .ok value := rfl

/-- A name that was given last has the value it was given. -/
@[simp] theorem named_cons_self (name : String) (value : Value) (scope : Context) :
    named ((name, value) :: scope) name = value := by
  simp [Medium.named, lookup?]

/-- Giving a name to a value leaves all other names alone. -/
theorem named_cons_of_ne {name other : String} (different : name ≠ other) (value : Value)
    (scope : Context) : named ((name, value) :: scope) other = named scope other := by
  simp [Medium.named, lookup?, different]

section

variable {scope : Context} {value result : Value}

/-- A name has the value that it was given. -/
theorem eval_named {name : String} (given : named scope name = value) :
    (Expr.named name).eval scope = .ok value := by
  simp [Expr.evalIn, given, Pure.pure, Except.pure]

/-- A member is looked up in the value of its owner. -/
theorem eval_member {owner : Expr} {name : String} (owned : owner.eval scope = .ok value)
    (found : value.member name = .ok result) :
    (Expr.member owner name).eval scope = .ok result := by
  simp [Expr.evalIn, owned, found, Bind.bind, Except.bind]

/-- What is not the case is the truth of the operand turned round. -/
theorem eval_not {operand : Expr} {truth : Bool} (evaluated : operand.eval scope = .ok value)
    (judged : value.truth = .ok truth) :
    (Expr.not operand).eval scope = .ok (.bool !truth) := by
  simp [Expr.evalIn, evaluated, judged, Bind.bind, Except.bind, Pure.pure, Except.pure]

/-- A filter without arguments is applied to the value of its subject alone. -/
theorem eval_filter {name : String} {filter : Filter} {subject : Expr}
    (evaluated : subject.eval scope = .ok value) (known : Filter.ofName? name = some filter)
    (applied : filter.apply value [] = .ok result) :
    (Expr.filter name subject []).eval scope = .ok result := by
  simp [Expr.evalIn, evalAllIn, evaluated, applyFilter, known, applied, Bind.bind, Except.bind,
    Pure.pure, Except.pure]

/-- A called operation is applied to the values of both of its arguments. -/
theorem eval_call {operation first second : Expr} {helper : Helper} {left right : Value}
    (called : operation.eval scope = .ok (.helper helper))
    (firstEvaluated : first.eval scope = .ok left)
    (secondEvaluated : second.eval scope = .ok right)
    (applied : applyHelper helper [left, right] = .ok result) :
    (Expr.call operation [first, second]).eval scope = .ok result := by
  simp [evalIn_call, evalAllIn, called, firstEvaluated, secondEvaluated, call, applied, Bind.bind,
    Except.bind, Pure.pure, Except.pure]

end

end Tablewright.Template
