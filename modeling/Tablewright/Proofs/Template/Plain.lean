import Tablewright.Template.Shelf

/-! Templates among plain values, which no method changes: the case that most templates come to. -/

namespace Tablewright.Template

/-- Plain values, none of which has a method: a called member stands for itself. -/
def Medium.plain : Medium (Except RunFault) Value where
  leaf value := value
  look := pure
  lookAll := pure
  elements value := run value.elements
  member name value := run (value.member name)
  element key value := run (value.element key)
  send _ _ member arguments := run (call member arguments)

section

variable (value : Value) (values : List Value)

/-- A plain value stands for itself. -/
@[simp] theorem plain_leaf : Medium.plain.leaf value = value := rfl

/-- To look at a plain value is to have it. -/
@[simp] theorem plain_look : Medium.plain.look value = .ok value := rfl

/-- To look at plain values is to have them. -/
@[simp] theorem plain_lookAll : Medium.plain.lookAll values = .ok values := rfl

/-- The elements of a plain value are its own. -/
@[simp] theorem plain_elements : Medium.plain.elements value = run value.elements := rfl

/-- The members of a plain value are its own. -/
@[simp] theorem plain_member (name : String) :
    Medium.plain.member name value = run (value.member name) := rfl

end

/-- The plain value of a name, which may be missing. -/
abbrev named (scope : Context) (name : String) : Value := Medium.plain.named scope name

/-- The plain value of an expression. -/
abbrev Expr.eval (scope : Context) (expr : Expr) : Except RunFault Value :=
  expr.evalIn Medium.plain scope

/-- The plain values of expressions in a row. -/
abbrev evalAll (scope : Context) (exprs : List Expr) : Except RunFault (List Value) :=
  evalAllIn Medium.plain scope exprs

/-- Whether comparisons of neighbours hold among plain values. -/
abbrev evalCompared (scope : Context) (left : Value) (others : List (Bool × Expr)) :
    Except RunFault Value :=
  evalComparedIn Medium.plain scope left others

/-- What is inserted among plain values. -/
abbrev Insert := Inserting (Except RunFault) Value

/-- The plain names inside a round of a loop. -/
abbrev roundScope (scope : Context) (name : String) (body : List Node) (length done : Nat)
    (element : Value) : Context :=
  roundScopeIn Medium.plain scope name body length done element

/-- The text of a node among plain values. -/
abbrev Node.render (insert : Insert) (scope : Context) (node : Node) :
    Except RunFault (String × Context) :=
  node.renderIn Medium.plain insert scope

/-- The text of nodes in a row among plain values. -/
abbrev renderNodes (insert : Insert) (scope : Context) (nodes : List Node) :
    Except RunFault (String × Context) :=
  renderNodesIn Medium.plain insert scope nodes

/-- The text of the first branch whose condition holds among plain values. -/
abbrev renderCases (insert : Insert) (scope : Context) (cases : List (Expr × List Node)) :
    Except RunFault (Option (String × Context)) :=
  renderCasesIn Medium.plain insert scope cases

/-- What a shelf inserts among plain values, to a depth. -/
abbrev Shelf.insert (shelf : Shelf) (depth : Nat) : Insert := shelf.insertIn Medium.plain depth

section

variable (insert : Insert) (scope : Context)

/-- A printed expression has the text of its value. -/
theorem render_print_eq (value : Expr) :
    (Node.print value).render insert scope =
      value.eval scope >>= fun shown => run shown.print >>= fun text => .ok (text, scope) := rfl

/-- A branch has the text of the first body whose condition holds, and of the last nodes
otherwise. -/
theorem render_branch_eq (cases : List (Expr × List Node)) (otherwise : List Node) :
    (Node.branch cases otherwise).render insert scope =
      renderCases insert scope cases >>= fun taken =>
        match taken with
        | some rendered => .ok rendered
        | none => renderNodes insert scope otherwise :=
  bind_congr fun taken => by cases taken <;> rfl

/-- A condition that holds takes its body, and one that fails leaves it to the next. -/
theorem renderCases_cons_eq (condition : Expr) (body : List Node)
    (rest : List (Expr × List Node)) :
    renderCases insert scope ((condition, body) :: rest) =
      condition.eval scope >>= fun value => run value.truth >>= fun holds =>
        if holds then renderNodes insert scope body >>= fun rendered => .ok (some rendered)
        else renderCases insert scope rest := rfl

/-- A loop has the texts of its rounds, and that of the last nodes when there are none. -/
theorem render_each_eq (name : String) (elements : Expr) (body otherwise : List Node) :
    (Node.each name elements body otherwise).render insert scope =
      elements.eval scope >>= fun value => run value.elements >>= fun items =>
        if items.isEmpty then
          renderNodes insert scope otherwise >>= fun rendered => .ok (rendered.1, scope)
        else
          (items.zipIdx.mapM fun entry =>
            renderNodes insert (roundScope scope name body items.length entry.2 entry.1) body >>=
              fun rendered => .ok rendered.1) >>= fun rounds =>
            .ok (String.join rounds, scope) := rfl

/-- A binding gives a name to its value. -/
theorem render_bind_eq (name : String) (value : Expr) :
    (Node.bind name value).render insert scope =
      value.eval scope >>= fun result => .ok ("", (name, result) :: scope) := rfl

/-- A captured text gets a name instead of being shown. -/
theorem render_capture_eq (name : String) (body : List Node) :
    (Node.capture name body).render insert scope =
      renderNodes insert scope body >>= fun rendered =>
        .ok ("", (name, .text rendered.1) :: scope) := rfl

/-- Nodes in a row are rendered one after another, among the names that those before leave. -/
theorem renderNodes_cons_eq (node : Node) (rest : List Node) :
    renderNodes insert scope (node :: rest) =
      node.render insert scope >>= fun first => renderNodes insert first.2 rest >>= fun others =>
        .ok (first.1 ++ others.1, others.2) := rfl

end

/-- A filter is applied to the plain values of its subject and its arguments. -/
theorem evalIn_filter (scope : Context) (name : String) (subject : Expr) (arguments : List Expr) :
    (Expr.filter name subject arguments).evalIn Medium.plain scope =
      subject.eval scope >>= fun value => evalAll scope arguments >>= fun given =>
        applyFilter name value given :=
  bind_congr fun value => bind_congr fun given => bind_pure (applyFilter name value given)

/-- A call is one of whatever is called, be it a member or not. -/
theorem evalIn_call (scope : Context) (operation : Expr) (arguments : List Expr) :
    (Expr.call operation arguments).evalIn Medium.plain scope =
      operation.eval scope >>= fun value => evalAll scope arguments >>= fun given =>
        run (call value given) := by
  -- Among plain values a called member comes to what any other call of its value comes to.
  cases operation with
  | member owner name =>
    rw [Expr.evalIn, Expr.eval, Expr.evalIn, bind_assoc]
    rfl
  | _ => exact bind_congr fun value => bind_congr fun given => bind_pure (run (call value given))

end Tablewright.Template
