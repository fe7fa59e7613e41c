import Tablewright.Proofs.Template.Rendering
import Tablewright.Proofs.Value.Entries

/-! Missing values: a run stops at the first of the names it needs that stands for nothing. -/

namespace Tablewright

/-- The first of some names that no entry goes by. -/
def firstMissing? (names : List String) (context : Context) : Option String :=
  names.find? fun name => (lookup? name context).isNone

namespace Template

/-- A name without a value, put to use. -/
def unbound (name : String) : RunFault := .value (.missing (.unbound name))

/-- A run needs names in an order when it stops at the first of them that is missing. -/
def StopsAtFirst (scope : Context) (names : List String) (outcome : Except RunFault α) : Prop :=
  ∀ name, firstMissing? names scope = some name → outcome = .error (unbound name)

section

variable {scope : Context} {name : String} {names : List String}

/-- Whether the first name is missing decides how the search goes on. -/
theorem firstMissing?_cons :
    firstMissing? (name :: names) scope =
      if lookup? name scope = none then some name else firstMissing? names scope := by
  cases found : lookup? name scope <;> simp [firstMissing?, found]

/-- No name is missing when all of them have values. -/
theorem firstMissing?_eq_none_iff :
    firstMissing? names scope = none ↔
      ∀ name ∈ names, ∃ value, lookup? name scope = some value := by
  simp [firstMissing?, ← Option.ne_none_iff_exists']

/-- Entries under other names behind the context leave the first missing name the same. -/
theorem firstMissing?_append {others : Context}
    (apart : ∀ name ∈ names, lookup? name others = none) :
    firstMissing? names (scope ++ others) = firstMissing? names scope := by
  -- Each name is looked up in the context first, and no name is found behind it.
  induction names with
  | nil => rfl
  | cons first rest ih =>
    have here := apart first List.mem_cons_self
    have behind := ih fun name member => apart name (List.mem_cons_of_mem _ member)
    rw [firstMissing?_cons, firstMissing?_cons, lookup?_append, here, Option.or_none, behind]

/-- A name that is missing stands for a missing value. -/
theorem named_of_missing (absent : lookup? name scope = none) :
    named scope name = .missing (.unbound name) := by
  rw [named, Medium.named, absent, Option.getD_none, plain_leaf]

/-- A name that has a value stands for it. -/
theorem named_of_found {value : Value} (found : lookup? name scope = some value) :
    named scope name = value := by
  rw [named, Medium.named, found, Option.getD_some]

end

section

variable {insert : Insert} {scope : Context} {cause : RunFault} {what : Missing}

/-- A node that stops ends the run. -/
theorem renderNodes_stopped {node : Node} {rest : List Node}
    (stopped : node.render insert scope = .error cause) :
    renderNodes insert scope (node :: rest) = .error cause := by
  simp [renderNodesIn, stopped, Bind.bind, Except.bind]

/-- An expression that stops is not printed. -/
theorem render_print_stopped {value : Expr} (stopped : value.eval scope = .error cause) :
    (Node.print value).render insert scope = .error cause := by
  simp [Node.renderIn, stopped, Bind.bind, Except.bind]

/-- A missing value is not printed. -/
theorem render_print_missing {value : Expr} (missing : value.eval scope = .ok (.missing what)) :
    (Node.print value).render insert scope = .error (.value (.missing what)) := by
  -- A name may stand for a missing value, but nothing is printed of one.
  have unprinted : Value.print (.missing what) = .error (.missing what) := rfl
  simp only [render_print_eq, missing, run, unprinted, Except.mapError, Bind.bind, Except.bind]

/-- A missing value is no condition. -/
theorem render_branch_missing {condition : Expr} {body : List Node}
    (missing : condition.eval scope = .ok (.missing what)) :
    (Node.branch [(condition, body)] []).render insert scope = .error (.value (.missing what)) := by
  have untold : Value.truth (.missing what) = .error (.missing what) := rfl
  simp only [render_branch_eq, renderCases_cons_eq, missing, run, untold, Except.mapError,
    Bind.bind, Except.bind]

/-- There is no loop over a missing value. -/
theorem render_each_missing {elements : Expr} {element : String} {body otherwise : List Node}
    (missing : elements.eval scope = .ok (.missing what)) :
    (Node.each element elements body otherwise).render insert scope =
      .error (.value (.missing what)) := by
  have empty : Value.elements (.missing what) = .error (.missing what) := rfl
  simp only [render_each_eq, missing, run, empty, Except.mapError, Bind.bind, Except.bind]

/-- A filter stops at a value that it does not take. -/
theorem eval_filter_stopped {filter : Filter} {name : String} {subject : Expr} {value : Value}
    {fault : Fault} (evaluated : subject.eval scope = .ok value)
    (known : Filter.ofName? name = some filter) (refused : filter.apply value [] = .error fault) :
    (Expr.filter name subject []).eval scope = .error (.value fault) := by
  simp [Expr.evalIn, evalAllIn, evaluated, applyFilter, known, run, refused, Except.mapError,
    Bind.bind, Except.bind, Pure.pure, Except.pure]

/-- A called operation stops at values that it does not take. -/
theorem eval_call_stopped {operation first second : Expr} {helper : Helper} {left right : Value}
    {fault : Fault} (called : operation.eval scope = .ok (.helper helper))
    (firstEvaluated : first.eval scope = .ok left)
    (secondEvaluated : second.eval scope = .ok right)
    (refused : applyHelper helper [left, right] = .error fault) :
    (Expr.call operation [first, second]).eval scope = .error (.value fault) := by
  simp [evalIn_call, evalAllIn, called, firstEvaluated, secondEvaluated, call, run, refused,
    Except.mapError, Bind.bind, Except.bind, Pure.pure, Except.pure]

end

section

variable {insert : Insert} {scope : Context} {names : List String}

/-- A run that needs no names stops for none. -/
theorem stopsAtFirst_nil {outcome : Except RunFault α} : StopsAtFirst scope [] outcome := by
  intro name missing
  cases missing

/-- A run with text in front of it fails as it does without. -/
theorem prepend_eq_error_iff {front : String} {outcome : Except RunFault (String × Context)}
    {cause : RunFault} : prepend front outcome = .error cause ↔ outcome = .error cause := by
  -- Text in front changes nothing but the text of a run that succeeds.
  cases outcome with
  | error other => exact Iff.rfl
  | ok result => exact ⟨(by intro same; cases same), (by intro same; cases same)⟩

/-- Text in front of a run does not change where the run stops. -/
theorem stopsAtFirst_prepend {front : String} {outcome : Except RunFault (String × Context)} :
    StopsAtFirst scope names (prepend front outcome) ↔ StopsAtFirst scope names outcome := by
  simp only [StopsAtFirst, prepend_eq_error_iff]

/-- A node that needs one more name stops there, and what follows it needs the names behind. -/
theorem stopsAtFirst_node {name : String} {node : Node} {rest : List Node}
    (absent : named scope name = .missing (.unbound name) →
      node.render insert scope = .error (unbound name))
    (present : ∀ value, lookup? name scope = some value →
      StopsAtFirst scope names (renderNodes insert scope (node :: rest))) :
    StopsAtFirst scope (name :: names) (renderNodes insert scope (node :: rest)) := by
  -- Either the node's own name is the first one missing, or the search goes on behind it.
  intro first missing
  rw [firstMissing?_cons] at missing
  cases found : lookup? name scope with
  | none =>
    rw [if_pos found] at missing
    cases missing
    exact renderNodes_stopped (absent (named_of_missing found))
  -- The name has a value, so the first one missing is among those behind.
  | some value =>
    have behind : ¬ lookup? name scope = none := by
      rw [found]
      simp
    rw [if_neg behind] at missing
    exact present value found first missing

end

end Template

end Tablewright
