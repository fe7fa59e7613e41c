import Tablewright.Proofs.Template.Evaluation

/-! Rules by which nodes are rendered one after another, for nodes that give no names to values. -/

namespace Tablewright.Template

/-- A body that does not ask where the loop stands only learns the element. -/
theorem roundScope_of_silent {body : List Node} (silent : bodyMentions loopName body = false)
    (scope : Context) (name : String) (length done : Nat) (element : Value) :
    roundScope scope name body length done element = (name, element) :: scope := by
  simp [roundScopeIn, silent]

/-- A body that asks where the loop stands learns that and the element. -/
theorem roundScope_of_asking {body : List Node} (asking : bodyMentions loopName body = true)
    (scope : Context) (name : String) (length done : Nat) (element : Value) :
    roundScope scope name body length done element =
      (name, element) :: (loopName, .loop ⟨done, length⟩) :: scope := by
  simp [roundScopeIn, asking]

/-- Inside a round the name of the loop stands for the element. -/
theorem named_roundScope_self (scope : Context) (name : String) (body : List Node)
    (length done : Nat) (element : Value) :
    named (roundScope scope name body length done element) name = element := by
  rw [roundScope, roundScopeIn, List.cons_append, named_cons_self]

/-- Inside a round all other names stand for the same, if they do around the loop. -/
theorem named_roundScope_congr {scope scope' : Context} {name other : String}
    (apart : name ≠ other) (same : named scope other = named scope' other) (body : List Node)
    (length done : Nat) (element element' : Value) :
    named (roundScope scope name body length done element) other =
      named (roundScope scope' name body length done element') other := by
  -- The element and what the loop tells stand in front of the outer names, and are passed over.
  rw [roundScope, roundScope, roundScopeIn, roundScopeIn, List.cons_append, List.cons_append,
    named_cons_of_ne apart, named_cons_of_ne apart]
  split
  · by_cases hit : loopName = other
    · subst hit
      rw [List.singleton_append, List.singleton_append, named_cons_self, named_cons_self]
    · rw [List.singleton_append, List.singleton_append, named_cons_of_ne hit,
        named_cons_of_ne hit, same]
  · -- Without the loop's own name only the element is in front.
    rw [List.nil_append, List.nil_append, same]

/-- Rendered text with further text in front of it. -/
def prepend (front : String) (rendered : Except RunFault (String × Context)) :
    Except RunFault (String × Context) :=
  rendered.map fun result => (front ++ result.1, result.2)

/-- Text in front of a success makes a longer success. -/
@[simp] theorem prepend_ok (front text : String) (scope : Context) :
    prepend front (.ok (text, scope)) = .ok (front ++ text, scope) := rfl

section

variable {insert : Insert} {scope : Context} {rest : List Node}

/-- No nodes have no text. -/
theorem renderNodes_nil : renderNodes insert scope [] = .ok ("", scope) := rfl

/-- A node that keeps the names puts its text in front of what follows. -/
theorem renderNodes_cons {node : Node} {text : String}
    (rendered : node.render insert scope = .ok (text, scope)) :
    renderNodes insert scope (node :: rest) = prepend text (renderNodes insert scope rest) := by
  -- The rest goes on with the names that were there before.
  cases following : renderNodes insert scope rest with
  | error cause =>
    simp [renderNodesIn, rendered, following, prepend, Bind.bind, Except.bind, Except.map]
  | ok result =>
    simp [renderNodesIn, rendered, following, prepend, Bind.bind, Except.bind, Except.map,
      Pure.pure, Except.pure]

/-- Text stands for itself. -/
theorem renderNodes_text (text : String) :
    renderNodes insert scope (.text text :: rest) =
      prepend text (renderNodes insert scope rest) := by
  apply renderNodes_cons
  simp [Node.renderIn, Pure.pure, Except.pure]

/-- An expression whose value is a text is printed as that text, whatever it contains. -/
theorem renderNodes_print {value : Expr} {text : String}
    (evaluated : value.eval scope = .ok (.text text)) :
    renderNodes insert scope (.print value :: rest) =
      prepend text (renderNodes insert scope rest) := by
  apply renderNodes_cons
  simp [Node.renderIn, evaluated, Value.print, Bind.bind, Except.bind, Pure.pure, Except.pure]

/-- A condition that holds lets its body in. -/
theorem renderNodes_branch_true {condition : Expr} {value : Value} {body : List Node}
    {text : String} (evaluated : condition.eval scope = .ok value) (holds : value.truth = .ok true)
    (rendered : renderNodes insert scope body = .ok (text, scope)) :
    renderNodes insert scope (.branch [(condition, body)] [] :: rest) =
      prepend text (renderNodes insert scope rest) := by
  -- The body is all that such a branch has for a text.
  apply renderNodes_cons
  simp [Node.renderIn, renderCasesIn, evaluated, holds, rendered, Bind.bind, Except.bind,
    Pure.pure, Except.pure]

/-- A condition that fails leaves its body out. -/
theorem renderNodes_branch_false {condition : Expr} {value : Value} {body : List Node}
    (evaluated : condition.eval scope = .ok value) (fails : value.truth = .ok false) :
    renderNodes insert scope (.branch [(condition, body)] [] :: rest) =
      prepend "" (renderNodes insert scope rest) := by
  -- No other condition is left, and nothing stands behind the last one.
  apply renderNodes_cons
  simp [Node.renderIn, renderCasesIn, renderNodesIn, evaluated, fails, Bind.bind, Except.bind,
    Pure.pure, Except.pure]

/-- A loop over a list joins the texts of its rounds, one for each item in order. -/
theorem render_each {name : String} {elements : Expr} {body : List Node} {items : List Value}
    (evaluated : elements.eval scope = .ok (.list items)) :
    (Node.each name elements body []).render insert scope =
      (items.zipIdx.mapM fun entry =>
        (renderNodes insert (roundScope scope name body items.length entry.2 entry.1) body).map
          (·.1)).map fun rounds => (String.join rounds, scope) := by
  -- A loop over nothing has the text of its empty second body, which is that of no rounds.
  cases items with
  | nil =>
    simp [Node.renderIn, renderNodesIn, evaluated, Value.elements, Bind.bind, Except.bind,
      Pure.pure, Except.pure, Except.map]
  | cons first others =>
    -- Of a round only its text is kept, since the names it gave end with it.
    have each : ∀ rounds : Except RunFault (String × Context),
        (rounds.bind fun result => Except.ok result.1) = rounds.map (·.1) := by
      intro rounds
      cases rounds <;> rfl
    simp only [Node.renderIn, evaluated, plain_elements, run_ok, Value.elements, Bind.bind,
      Except.bind, Pure.pure, Except.pure, List.isEmpty_cons, Bool.false_eq_true, if_false]
    simp only [Except.bind] at each
    simp only [each]
    rfl

/-- A loop whose rounds all succeed puts their texts in front of what follows. -/
theorem renderNodes_each {name : String} {elements : Expr} {body : List Node} {items : List α}
    {value : α → Value} {text : α × Nat → String}
    (evaluated : elements.eval scope = .ok (.list (items.map value)))
    (rounds : ∀ entry ∈ items.zipIdx, ∃ last,
      renderNodes insert (roundScope scope name body items.length entry.2 (value entry.1)) body =
        .ok (text entry, last)) :
    renderNodes insert scope (.each name elements body [] :: rest) =
      prepend (String.join (items.zipIdx.map text)) (renderNodes insert scope rest) := by
  -- The loop is one node, and its text is that of the rounds in a row.
  apply renderNodes_cons
  rw [render_each evaluated, List.zipIdx_map, List.mapM_map, List.length_map]
  have made : (items.zipIdx.mapM fun entry =>
      (renderNodes insert (roundScope scope name body items.length entry.2 (value entry.1))
        body).map (·.1)) = .ok (items.zipIdx.map text) := by
    apply mapM_eq_ok_map
    -- Of what a round leaves only its text is kept.
    intro entry member
    obtain ⟨last, rendered⟩ := rounds entry member
    rw [rendered]
    rfl
  simp only [Function.comp_def, Prod.map, id]
  rw [made]
  rfl

end

end Tablewright.Template
