import Tablewright.Proofs.Template.Passive
import Tablewright.Proofs.Template.Rendering

/-! The same nodes among two sets of names: what relates the values they print relates the texts. -/

namespace Tablewright.Template

/-- The elements that an expression stands for. -/
def Expr.elementsIn (scope : Context) (expr : Expr) : Except RunFault (List Value) :=
  expr.eval scope >>= fun value => run value.elements

/-- The texts of the rounds of a loop over elements. -/
def roundTexts (insert : Insert) (scope : Context) (name : String) (body : List Node)
    (elements : List Value) : Except RunFault (List String) :=
  elements.zipIdx.mapM fun entry =>
    (renderNodes insert (roundScope scope name body elements.length entry.2 entry.1) body).map (·.1)

section

variable (insert : Insert) (scope : Context)

/-- A node has a text, or a fault, and leaves all names as they are. -/
def Node.Keeps (node : Node) (text : Except RunFault String) : Prop :=
  node.render insert scope = text.map (·, scope)

/-- Nodes in a row have a text, or a fault, and leave all names as they are. -/
def Keeps (nodes : List Node) (text : Except RunFault String) : Prop :=
  renderNodes insert scope nodes = text.map (·, scope)

variable {insert scope}

/-- The texts of nodes in a row follow each other. -/
theorem keeps_cons {node : Node} {rest : List Node} {text more : Except RunFault String}
    (first : node.Keeps insert scope text) (others : Keeps insert scope rest more) :
    Keeps insert scope (node :: rest) (text >>= fun front => more >>= fun back =>
      .ok (front ++ back)) := by
  -- The first node leaves all names as they are, so the rest is rendered among the same ones.
  rw [Keeps, renderNodes_cons_eq, first]
  cases text with
  | error fault => rfl
  | ok front =>
    simp only [Except.map, Bind.bind, Except.bind]
    rw [others]
    cases more <;> rfl

/-- Nodes in a row have a text only where each of them has one. -/
theorem exists_text_of_mem {nodes : List Node}
    (each : ∀ node ∈ nodes, ∃ text, node.Keeps insert scope text) {text : String}
    (whole : Keeps insert scope nodes (.ok text)) :
    ∀ node ∈ nodes, ∃ part, node.Keeps insert scope (.ok part) := by
  -- A fault of any node is the fault of all of them together.
  induction nodes generalizing text with
  | nil => simp
  | cons node rest ih =>
    obtain ⟨first, others⟩ := List.forall_mem_cons.mp each
    obtain ⟨part, kept⟩ := first
    rw [Keeps, renderNodes_cons_eq, kept] at whole
    cases part with
    -- A node at fault leaves no text of the whole.
    | error fault => cases whole
    | ok front =>
      -- The names are as before the first node, so the rest is rendered among the same ones.
      cases following : renderNodes insert scope rest with
      | error fault =>
        simp only [Except.map, Bind.bind, Except.bind, following] at whole
        cases whole
      | ok result =>
        simp only [Except.map, Bind.bind, Except.bind, following, Except.ok.injEq,
          Prod.mk.injEq] at whole
        have kept' : Keeps insert scope rest (.ok result.1) := by
          rw [Keeps, following, ← whole.2]
          rfl
        exact List.forall_mem_cons.mpr ⟨⟨front, kept⟩, ih others kept'⟩

/-- Nodes that keep all names and call no methods have their text among the values of a context. -/
theorem Keeps.shelfText {shelf : Shelf} {context : Context} {nodes : List Node}
    {text : Except RunFault String} (passive : shelf.Passive nodes)
    (kept : Keeps (shelf.insert insertDepth) (context ++ helpers) nodes text) :
    shelf.text nodes context =
      if (lookup? reservedName context).isSome then .error (.reservedName reservedName)
      else text := by
  rw [passive.text_eq, kept]
  cases text <;> rfl

/-- A printed expression has the text of its value. -/
theorem keeps_print (value : Expr) :
    (Node.print value).Keeps insert scope
      (value.eval scope >>= fun result => run result.print) := by
  -- To print changes no names, whether the value can be evaluated and printed or not.
  rw [Node.Keeps, render_print_eq]
  cases value.eval scope with
  | error fault => rfl
  | ok result =>
    simp only [Bind.bind, Except.bind]
    cases run result.print <;> rfl

/-- A single branch has the text of its body where its condition holds, and none elsewhere. -/
theorem keeps_branch (condition : Expr) {body : List Node} {text : Except RunFault String}
    (inside : Keeps insert scope body text) :
    (Node.branch [(condition, body)] []).Keeps insert scope (condition.eval scope >>= fun value =>
      run value.truth >>= fun holds => if holds then text else .ok "") := by
  -- Names given in the body are kept by assumption, so none leave the branch.
  rw [Node.Keeps, render_branch_eq, renderCases_cons_eq, inside]
  cases condition.eval scope with
  | error fault => rfl
  | ok value =>
    simp only [Bind.bind, Except.bind]
    cases run value.truth with
    | error fault => rfl
    | ok holds =>
      -- Without its branch the node goes on to its last nodes, of which there are none.
      cases holds <;> cases text <;> rfl

/-- A loop has the texts of its rounds one after another. -/
theorem keeps_each (name : String) (elements : Expr) (body : List Node) :
    (Node.each name elements body []).Keeps insert scope (elements.elementsIn scope >>= fun items =>
      (roundTexts insert scope name body items).map String.join) := by
  -- Of a round only its text is kept, since the names it gave end with it.
  have only : ∀ rounds : Except RunFault (String × Context),
      (rounds >>= fun result => pure result.1) = rounds.map (·.1) := by
    intro rounds
    cases rounds <;> rfl
  have joined : ∀ texts : Except RunFault (List String),
      (texts >>= fun rounds => pure (String.join rounds, scope)) =
        (texts.map String.join).map (·, scope) := by
    intro texts
    cases texts <;> rfl
  -- A loop without rounds has no text, since nothing stands behind its `else`.
  rw [Node.Keeps, render_each_eq, Expr.elementsIn]
  -- The value is told to its elements, and each of these to the text of a round.
  cases elements.eval scope with
  | error fault => rfl
  | ok value =>
    cases found : run value.elements with
    | error fault => simp only [Bind.bind, Except.bind, found, Except.map]
    | ok items =>
      cases items with
      | nil => simp only [Bind.bind, Except.bind, found]; rfl
      | cons first rest =>
        simp only [roundTexts, ← only, Bind.bind, Except.bind, found, List.isEmpty_cons,
          Bool.false_eq_true, if_false]
        exact joined _

end

section

variable
  (rel : ∀ {α β : Type}, (α → β → Prop) → Except RunFault α → Except RunFault β → Prop)
  (insert : Insert) (scope scope' : Context)

/-- A node leaves all names of two scopes as they are, and has related texts in them. -/
def Node.Abreast (node : Node) : Prop :=
  ∃ text text', rel (· = ·) text text' ∧
    node.Keeps insert scope text ∧ node.Keeps insert scope' text'

/-- Nodes in a row leave all names of two scopes as they are, and have related texts in them. -/
def Abreast (nodes : List Node) : Prop :=
  ∃ text text', rel (· = ·) text text' ∧
    Keeps insert scope nodes text ∧ Keeps insert scope' nodes text'

/-- Outcomes that are one and the same fault, or lists whose elements correspond. -/
def Listed (corresponds : Value → Value → Prop) (items items' : Except RunFault (List Value)) :
    Prop :=
  (items = items' ∧ Plain items ∧ ∃ fault, items = .error fault) ∨
    ∃ elements elements', items = .ok elements ∧ items' = .ok elements' ∧
      List.Forall₂ corresponds elements elements'

end

/-- An expression of one value in two scopes stands for the same elements in them. -/
theorem listed_of_eval_eq {scope scope' : Context} {expr : Expr}
    (same : expr.eval scope = expr.eval scope') :
    Listed (· = ·) (expr.elementsIn scope) (expr.elementsIn scope') := by
  -- The elements are told by the value, and evaluating it inserts nothing.
  have alike : expr.elementsIn scope = expr.elementsIn scope' := by
    rw [Expr.elementsIn, Expr.elementsIn, same]
  have plain : Plain (expr.elementsIn scope) := (expr.plain_eval scope).bind fun _ => plain_run _
  rw [← alike]
  cases found : expr.elementsIn scope with
  | error fault => exact .inl ⟨rfl, found ▸ plain, fault, rfl⟩
  | ok elements =>
    exact .inr ⟨elements, elements, rfl, rfl, List.forall₂_same.mpr fun _ _ => rfl⟩

section

variable {rel : ∀ {α β : Type}, (α → β → Prop) → Except RunFault α → Except RunFault β → Prop}
  (lasting : Lasting rel) {insert : Insert} {scope scope' : Context}
include lasting

/-- What is made of related outcomes in one way is related. -/
theorem Lasting.map {α β : Type} (f : α → β) {outcome outcome' : Except RunFault α}
    (related : rel (· = ·) outcome outcome') : rel (· = ·) (outcome.map f) (outcome'.map f) := by
  -- To change a value is one more step that inserts nothing.
  have asBind : ∀ given : Except RunFault α,
      given.map f = given >>= fun value => .ok (f value) := by
    intro given
    cases given <;> rfl
  rw [asBind, asBind]
  exact lasting.andThen related fun _ => lasting.refl (plain_ok _)

/-- No nodes have the same text everywhere. -/
theorem Abreast.nil : Abreast rel insert scope scope' [] :=
  ⟨.ok "", .ok "", lasting.refl (plain_ok _), rfl, rfl⟩

/-- Nodes in a row have related texts when each of them has. -/
theorem Abreast.cons {node : Node} {rest : List Node}
    (first : node.Abreast rel insert scope scope') (others : Abreast rel insert scope scope' rest) :
    Abreast rel insert scope scope' (node :: rest) := by
  -- Both rows put the rest behind the first text.
  obtain ⟨text, text', related, left, right⟩ := first
  obtain ⟨more, more', related', left', right'⟩ := others
  exact ⟨_, _, lasting.andThen related fun _ => lasting.andThen related' fun _ =>
    lasting.refl (plain_ok _), keeps_cons left left', keeps_cons right right'⟩

/-- Nodes in a row have related texts when every one of them has. -/
theorem Abreast.of_forall {nodes : List Node}
    (each : ∀ node ∈ nodes, node.Abreast rel insert scope scope') :
    Abreast rel insert scope scope' nodes := by
  -- The induction is on the nodes, each of which leaves its names behind for the next.
  induction nodes with
  | nil => exact Abreast.nil lasting
  | cons node rest ih =>
    obtain ⟨first, others⟩ := List.forall_mem_cons.mp each
    exact Abreast.cons lasting first (ih others)

/-- Text is the same everywhere. -/
theorem Node.Abreast.text (s : String) : (Node.text s).Abreast rel insert scope scope' :=
  ⟨.ok s, .ok s, lasting.refl (plain_ok _), rfl, rfl⟩

/-- An expression of related values is printed as related texts. -/
theorem Node.Abreast.print {value : Expr} 
    (related : rel (· = ·) (value.eval scope) (value.eval scope')) :
    (Node.print value).Abreast rel insert scope scope' :=
  -- Both texts are printed from the values, and printing asks for nothing else.
  ⟨_, _, lasting.andThen related fun _ => lasting.refl (plain_run _),
    keeps_print value, keeps_print value⟩

/-- An expression of one value in two scopes is printed alike. -/
theorem Node.Abreast.print_same {value : Expr} (same : value.eval scope = value.eval scope') :
    (Node.print value).Abreast rel insert scope scope' :=
  Node.Abreast.print lasting (same ▸ lasting.refl (value.plain_eval scope))

/-- A branch that is taken in both scopes or in neither has related texts when its body has. -/
theorem Node.Abreast.branch {condition : Expr} {body : List Node}
    (same : condition.eval scope = condition.eval scope')
    (inside : Template.Abreast rel insert scope scope' body) :
    (Node.branch [(condition, body)] []).Abreast rel insert scope scope' := by
  -- The condition has one value, so the branch is taken in both scopes or in neither.
  obtain ⟨text, text', related, left, right⟩ := inside
  refine ⟨_, _, ?_, keeps_branch condition left, keeps_branch condition right⟩
  rw [same]
  refine lasting.andThen (lasting.refl (condition.plain_eval scope')) fun _ =>
    lasting.andThen (lasting.refl (plain_run _)) fun holds => ?_
  -- A branch that is not taken has no text.
  cases holds
  · exact lasting.refl (plain_ok "")
  · exact related

/-- Rounds over corresponding elements have related texts when each pair of rounds has. -/
theorem Lasting.mapM_zipIdx {α : Type} {corresponds : Value → Value → Prop}
    {step step' : Value × Nat → Except RunFault α} {elements elements' : List Value}
    (corresponding : List.Forall₂ corresponds elements elements')
    (steps : ∀ element element' done, corresponds element element' →
      rel (· = ·) (step (element, done)) (step' (element', done))) (done : Nat) :
    rel (· = ·) ((elements.zipIdx done).mapM step) ((elements'.zipIdx done).mapM step') := by
  -- Corresponding elements stand at the same positions, so the rounds are counted alike.
  induction corresponding generalizing done with
  | nil => exact lasting.refl (plain_ok [])
  | cons first _ ih =>
    rw [List.zipIdx_cons, List.zipIdx_cons, List.mapM_cons, List.mapM_cons]
    exact lasting.andThen (steps _ _ done first) fun _ => lasting.andThen (ih (done + 1)) fun _ =>
      lasting.refl (plain_ok _)

/-- A loop over corresponding elements has related texts when each pair of rounds has. -/
theorem Node.Abreast.each {corresponds : Value → Value → Prop} {name : String} {elements : Expr}
    {body : List Node}
    (listed : Listed corresponds (elements.elementsIn scope) (elements.elementsIn scope'))
    (rounds : ∀ element element' length done, corresponds element element' →
      Template.Abreast rel insert (roundScope scope name body length done element)
        (roundScope scope' name body length done element') body) :
    (Node.each name elements body []).Abreast rel insert scope scope' := by
  -- Either the elements fail alike, or there are as many rounds in both scopes.
  refine ⟨_, _, ?_, keeps_each name elements body, keeps_each name elements body⟩
  rcases listed with ⟨same, plain, fault, failed⟩ | ⟨items, items', left, right, corresponding⟩
  · rw [failed] at plain
    rw [← same, failed]
    exact lasting.refl fun bad isBad hit => plain bad isBad (by cases hit; rfl)
  · rw [left, right]
    refine lasting.map String.join ?_
    -- Rounds are compared place by place, since each is told how many there are.
    rw [roundTexts, roundTexts, ← corresponding.length_eq]
    refine lasting.mapM_zipIdx corresponding (fun element element' done pair => ?_) 0
    obtain ⟨text, text', related, inside, inside'⟩ := rounds element element' items.length done pair
    rw [inside, inside']
    -- A round is known by its text, which is all that is kept of it.
    have only : ∀ (scope : Context) (text : Except RunFault String),
        (text.map (·, scope)).map (·.1) = text := by
      intro scope text
      cases text <;> rfl
    rw [only, only]
    exact related

/-- Nodes abreast have related texts among values that agree on the reserved name. -/
theorem Abreast.shelfText {shelf : Shelf} {nodes : List Node} {context context' : Context}
    (passive : shelf.Passive nodes)
    (reserved : lookup? reservedName context = lookup? reservedName context')
    (abreast : Abreast rel (shelf.insert insertDepth) (context ++ helpers) (context' ++ helpers)
      nodes) :
    rel (· = ·) (shelf.text nodes context) (shelf.text nodes context') := by
  -- The reserved name is refused in both contexts or in neither.
  obtain ⟨text, text', related, left, right⟩ := abreast
  rw [left.shelfText passive, right.shelfText passive, reserved]
  split
  · exact lasting.refl (avoids_error (by simp))
  · exact related

end

end Tablewright.Template
