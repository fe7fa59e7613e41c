import Tablewright.Proofs.Template.Passive
import Tablewright.Proofs.Template.Rendering

/-! Which names a template reads: its text depends on the values of these and of no others. -/

namespace Tablewright.Template

/-- Two scopes have the same value under every name that is asked for. -/
def Agree (asked : String → Prop) (scope scope' : Context) : Prop :=
  ∀ name, asked name → named scope name = named scope' name

/-- Scopes that agree on some names agree on fewer. -/
theorem Agree.mono {asked fewer : String → Prop} {scope scope' : Context}
    (agree : Agree asked scope scope') (within : ∀ name, fewer name → asked name) :
    Agree fewer scope scope' :=
  fun name few => agree name (within name few)

/-- Scopes that agree on some names agree on one more when it is given the same value. -/
theorem Agree.cons {asked more : String → Prop} {scope scope' : Context} {name : String}
    (agree : Agree asked scope scope') (value : Value)
    (within : ∀ other, more other → asked other ∨ name = other) :
    Agree more ((name, value) :: scope) ((name, value) :: scope') := by
  -- The one name stands for the given value on both sides, and the others as before.
  intro other asks
  by_cases hit : name = other
  · subst hit
    rw [named_cons_self, named_cons_self]
  · rw [named_cons_of_ne hit, named_cons_of_ne hit]
    exact agree other ((within other asks).resolve_right hit)

section

variable {scope scope' : Context}

mutual

/-- The value of an expression is told by the values of the names that it mentions. -/
theorem Expr.eval_congr (expr : Expr)
    (agree : Agree (fun name => expr.mentions name = true) scope scope') :
    expr.eval scope = expr.eval scope' := by
  -- Each part mentions no more names than the whole, so the parts have the same values.
  cases expr with
  | null | bool | int | text => rfl
  | named name =>
    have same := agree name (by simp [Expr.mentions])
    simp only [Expr.evalIn, same]
  | member owner name =>
    have owned := owner.eval_congr (agree.mono fun _ asks => by simpa [Expr.mentions] using asks)
    simp only [Expr.evalIn, owned]
  | element owner key =>
    have owned := owner.eval_congr (agree.mono fun _ asks => by simp [Expr.mentions, asks])
    have keyed := key.eval_congr (agree.mono fun _ asks => by simp [Expr.mentions, asks])
    simp only [Expr.evalIn, owned, keyed]
  | call operation arguments =>
    have called := operation.eval_congr (agree.mono fun _ asks => by simp [Expr.mentions, asks])
    have given := evalAll_congr arguments (agree.mono fun _ asks => by simp [Expr.mentions, asks])
    simp only [evalIn_call, called, given]
  -- What a filter or a test is applied to decides its outcome.
  | filter name subject arguments | test name subject arguments =>
    have shown := subject.eval_congr (agree.mono fun _ asks => by simp [Expr.mentions, asks])
    have given := evalAll_congr arguments (agree.mono fun _ asks => by simp [Expr.mentions, asks])
    simp only [Expr.evalIn, shown, given]
  | not operand =>
    have same := operand.eval_congr (agree.mono fun _ asks => by simpa [Expr.mentions] using asks)
    simp only [Expr.evalIn, same]
  | and left right | or left right =>
    have first := left.eval_congr (agree.mono fun _ asks => by simp [Expr.mentions, asks])
    have second := right.eval_congr (agree.mono fun _ asks => by simp [Expr.mentions, asks])
    simp only [Expr.evalIn, first, second]
  -- Comparisons go on from the value of the first operand.
  | compare first others =>
    have start := first.eval_congr (agree.mono fun _ asks => by simp [Expr.mentions, asks])
    have further := evalCompared_congr others
      (agree.mono fun _ asks => by simp [Expr.mentions, asks])
    simp only [Expr.evalIn, start, further]
  | concat operands =>
    have same := evalAll_congr operands
      (agree.mono fun _ asks => by simpa [Expr.mentions] using asks)
    simp only [Expr.evalIn, same]
  | choose condition whenTrue whenFalse =>
    have asked := condition.eval_congr (agree.mono fun _ asks => by simp [Expr.mentions, asks])
    have yes := whenTrue.eval_congr (agree.mono fun _ asks => by simp [Expr.mentions, asks])
    have no := whenFalse.eval_congr (agree.mono fun _ asks => by simp [Expr.mentions, asks])
    simp only [Expr.evalIn, asked, yes, no]

/-- The values of expressions in a row are told by the names that these mention. -/
theorem evalAll_congr (exprs : List Expr)
    (agree : Agree (fun name => anyMentions name exprs = true) scope scope') :
    evalAll scope exprs = evalAll scope' exprs := by
  -- Each expression mentions no more than the row does.
  cases exprs with
  | nil => rfl
  | cons expr rest =>
    have first := expr.eval_congr (agree.mono fun _ asks => by simp [anyMentions, asks])
    have others := evalAll_congr rest (agree.mono fun _ asks => by simp [anyMentions, asks])
    simp only [evalAllIn, first, others]

/-- Whether comparisons hold is told by the names that they mention, whatever stands on the left. -/
theorem evalCompared_congr (others : List (Bool × Expr))
    (agree : Agree (fun name => comparedMentions name others = true) scope scope')
    (left : Value) : evalCompared scope left others = evalCompared scope' left others := by
  -- The right operand of one comparison is the left one of the next.
  cases others with
  | nil => rfl
  | cons other rest =>
    obtain ⟨wantsEqual, expr⟩ := other
    have right := expr.eval_congr (agree.mono fun _ asks => by simp [comparedMentions, asks])
    have further := evalCompared_congr rest
      (agree.mono fun _ asks => by simp [comparedMentions, asks])
    simp only [evalComparedIn, right, further]

end

end

/-- Whether a node gives a value to a name for the nodes behind it, whatever happens in it. -/
def Node.gives (name : String) : Node → Bool
  | .bind other _ | .capture other _ => other == name
  | _ => false

mutual

/-- Whether a node asks for a name as it stands around the node. -/
def Node.asks (name : String) : Node → Bool
  | .text _ => false
  | .print value | .bind _ value => value.mentions name
  | .branch cases otherwise => casesAsk name cases || bodyAsks name otherwise
  -- A loop gives its own values to the name of its element and to that of the loop.
  | .each element elements body otherwise =>
    elements.mentions name ||
      (element != name && !(loopName == name && bodyMentions loopName body) &&
        bodyAsks name body) ||
      bodyAsks name otherwise
  | .capture _ body => bodyAsks name body
  | .insert _ => true

/-- Whether nodes in a row ask for a name that none of them has given a value before. -/
def bodyAsks (name : String) : List Node → Bool
  | [] => false
  | node :: rest => node.asks name || (!node.gives name && bodyAsks name rest)

/-- Whether a branch asks for a name. -/
def casesAsk (name : String) : List (Expr × List Node) → Bool
  | [] => false
  | (condition, body) :: rest =>
    condition.mentions name || bodyAsks name body || casesAsk name rest

end

/-- Rendered nodes have one text, and leave scopes that agree on names. -/
def Alongside (asked : String → Prop) (rendered rendered' : String × Context) : Prop :=
  rendered.1 = rendered'.1 ∧ Agree asked rendered.2 rendered'.2

/-- Inside a round, scopes agree on what its body asks for when they do around the loop. -/
theorem Agree.round {asked : String → Prop} {scope scope' : Context} {name : String}
    {body : List Node} (agree : Agree asked scope scope')
    (within : ∀ other, bodyAsks other body = true →
      asked other ∨ name = other ∨ (loopName = other ∧ bodyMentions loopName body = true))
    (length done : Nat) (element : Value) :
    Agree (fun other => bodyAsks other body = true)
      (roundScope scope name body length done element)
      (roundScope scope' name body length done element) := by
  -- The loop tells where it stands in both scopes or in neither, and tells the same.
  by_cases told : bodyMentions loopName body = true
  · rw [roundScope_of_asking told, roundScope_of_asking told]
    have outer : ∀ value, Agree (fun other => asked other ∨ loopName = other)
        ((loopName, value) :: scope) ((loopName, value) :: scope') :=
      fun value => agree.cons value fun _ => id
    refine (outer _).cons element ?_
    intro other asks
    rcases within other asks with plain | bound | ⟨loop, -⟩
    · exact .inl (.inl plain)
    · exact .inr bound
    · exact .inl (.inr loop)
  · -- A body that never asks where the loop stands is told nothing of it.
    rw [Bool.not_eq_true] at told
    rw [roundScope_of_silent told, roundScope_of_silent told]
    refine agree.cons element ?_
    intro other asks
    rcases within other asks with plain | bound | ⟨-, mentions⟩
    · exact .inl plain
    · exact .inr bound
    · rw [told] at mentions
      cases mentions

/-- Scopes that agree on names agree on no more behind a node that gives none. -/
theorem Agree.behind {asked : String → Prop} {scope scope' : Context} {node : Node}
    (agree : Agree asked scope scope') (none : ∀ name, node.gives name = false) :
    Agree (fun name => asked name ∨ node.gives name = true) scope scope' := by
  -- A node that gives no names asks no more of the scopes than they have.
  refine agree.mono fun name held => held.resolve_right ?_
  rw [none name]
  exact Bool.false_ne_true

section

variable {insert insert' : Insert}

mutual

/-- A node that inserts nothing has one text in scopes that agree on the names it asks for. -/
theorem Node.render_agree {asked : String → Prop} {scope scope' : Context}
    (node : Node) (closed : node.inserts = false)
    (agree : Agree asked scope scope') (within : ∀ name, node.asks name = true → asked name) :
    SameUpTo (Alongside fun name => asked name ∨ node.gives name = true)
      (node.render insert scope) (node.render insert' scope') := by
  -- What a node gives a name to is the same in both scopes, and other names stay as they are.
  cases node with
  | text s => exact .ok ⟨rfl, agree.behind fun _ => rfl⟩
  | print value =>
    have same := value.eval_congr (agree.mono within)
    rw [render_print_eq, render_print_eq, same]
    refine SameUpTo.andThen _ fun result => ?_
    refine SameUpTo.andThen _ fun text => ?_
    exact .ok ⟨rfl, agree.behind fun _ => rfl⟩
  -- The same branch is taken, and what it names is forgotten behind it.
  | branch cases otherwise =>
    simp only [Node.inserts, Bool.or_eq_false_iff] at closed
    have taken := renderCases_agree cases closed.1 agree fun name asks =>
      within name (by simp [Node.asks, asks])
    have left := renderNodes_agree otherwise closed.2 agree fun name asks =>
      within name (by simp [Node.asks, asks])
    rw [render_branch_eq, render_branch_eq]
    refine taken.bind ?_
    intro chosen chosen' pair
    cases pair with
    | some both => exact .ok ⟨both.1, both.2.behind fun _ => rfl⟩
    | none => exact left.imp fun _ _ both => ⟨both.1, both.2.behind fun _ => rfl⟩
  | each name elements body otherwise =>
    simp only [Node.inserts, Bool.or_eq_false_iff] at closed
    have same := elements.eval_congr (agree.mono fun other asks =>
      within other (by simp [Node.asks, asks]))
    -- A name that the body asks for is asked for by the loop, or bound by its rounds.
    have inside : ∀ other, bodyAsks other body = true →
        asked other ∨ name = other ∨ (loopName = other ∧ bodyMentions loopName body = true) := by
      intro other asks
      by_cases bound : name = other ∨ (loopName = other ∧ bodyMentions loopName body = true)
      · exact .inr bound
      · refine .inl (within other ?_)
        rw [not_or, not_and, Bool.not_eq_true] at bound
        have free : (loopName == other && bodyMentions loopName body) = false := by
          simpa using bound.2
        simp [Node.asks, asks, bound.1, free]
    -- Of a round nothing but the text goes on.
    have rounds : ∀ entry : Value × Nat, ∀ length,
        (renderNodes insert (roundScope scope name body length entry.2 entry.1) body >>=
            fun rendered => .ok rendered.1) =
          renderNodes insert' (roundScope scope' name body length entry.2 entry.1) body >>=
            fun rendered => .ok rendered.1 := by
      intro entry length
      exact (renderNodes_agree body closed.1 (agree.round inside length entry.2 entry.1)
        fun _ => id).map_eq fun _ _ both => both.1
    have left := renderNodes_agree otherwise closed.2 agree fun other asks =>
      within other (by simp [Node.asks, asks])
    rw [render_each_eq, render_each_eq, same]
    refine SameUpTo.andThen _ fun value => ?_
    refine SameUpTo.andThen _ fun items => ?_
    split
    · refine left.bind fun rendered rendered' both => ?_
      exact .ok ⟨both.1, agree.behind fun _ => rfl⟩
    · have texts := congrArg items.zipIdx.mapM (funext fun entry => rounds entry items.length)
      rw [texts]
      refine SameUpTo.andThen _ fun texts => ?_
      exact .ok ⟨rfl, agree.behind fun _ => rfl⟩
  -- The name stands for the same value from here on.
  | bind name value =>
    have same := value.eval_congr (agree.mono within)
    rw [render_bind_eq, render_bind_eq, same]
    refine SameUpTo.andThen _ fun result => ?_
    exact .ok ⟨rfl, agree.cons result fun other held => by simpa [Node.gives] using held⟩
  | capture name body =>
    have inside := renderNodes_agree body closed agree within
    rw [render_capture_eq, render_capture_eq]
    refine inside.bind ?_
    rintro ⟨text, last⟩ ⟨_, last'⟩ ⟨rfl, -⟩
    exact .ok ⟨rfl, agree.cons _ fun other held => by simpa [Node.gives] using held⟩
  | insert file => cases closed

/-- Nodes in a row have one text in scopes that agree on the names they ask for. -/
theorem renderNodes_agree {asked : String → Prop} {scope scope' : Context}
    (nodes : List Node) (closed : anyInserts nodes = false)
    (agree : Agree asked scope scope') (within : ∀ name, bodyAsks name nodes = true → asked name) :
    SameUpTo (Alongside asked) (renderNodes insert scope nodes)
      (renderNodes insert' scope' nodes) := by
  -- What the first node gives names to is agreed on behind it.
  cases nodes with
  | nil => exact .ok ⟨rfl, agree⟩
  | cons node rest =>
    simp only [anyInserts, Bool.or_eq_false_iff] at closed
    have first := node.render_agree closed.1 agree
      fun name asks => within name (by simp [bodyAsks, asks])
    rw [renderNodes_cons_eq, renderNodes_cons_eq]
    refine first.bind ?_
    rintro ⟨text, next⟩ ⟨_, next'⟩ ⟨rfl, gained⟩
    -- What the rest asks for was asked for before, or the node has just given it a value.
    have others := renderNodes_agree rest closed.2 gained fun name asks => by
      by_cases given : node.gives name = true
      · exact .inr given
      · exact .inl (within name (by simp [bodyAsks, asks, given]))
    refine others.bind ?_
    rintro ⟨more, last⟩ ⟨_, last'⟩ ⟨rfl, further⟩
    exact .ok ⟨rfl, further.mono fun _ => .inl⟩

/-- Branches are taken alike, and have one text, in scopes that agree on what they ask for. -/
theorem renderCases_agree {asked : String → Prop} {scope scope' : Context}
    (cases : List (Expr × List Node)) (closed : casesInsert cases = false)
    (agree : Agree asked scope scope') (within : ∀ name, casesAsk name cases = true → asked name) :
    SameUpTo (Option.Rel (Alongside asked)) (renderCases insert scope cases)
      (renderCases insert' scope' cases) := by
  -- The same condition holds in both scopes, so the same body is taken.
  cases cases with
  | nil => exact .ok .none
  | cons entry rest =>
    obtain ⟨condition, body⟩ := entry
    simp only [casesInsert, Bool.or_eq_false_iff] at closed
    have same := condition.eval_congr (agree.mono fun name asks =>
      within name (by simp [casesAsk, asks]))
    have inside := renderNodes_agree body closed.1 agree
      fun name asks => within name (by simp [casesAsk, asks])
    have others := renderCases_agree rest closed.2 agree
      fun name asks => within name (by simp [casesAsk, asks])
    rw [renderCases_cons_eq, renderCases_cons_eq, same]
    refine SameUpTo.andThen _ fun value => ?_
    refine SameUpTo.andThen _ fun holds => ?_
    split
    · exact inside.bind fun rendered rendered' both => .ok (.some both)
    · -- The next condition is asked among the same names.
      exact others

end

end

/-- Nodes that call no methods and insert nothing have one text among values that agree on what the
nodes ask for. -/
theorem Shelf.text_congr {nodes : List Node} (unsent : bodySends nodes = false)
    (closed : anyInserts nodes = false) (shelf : Shelf) {context context' : Context}
    (reserved : lookup? reservedName context = lookup? reservedName context')
    (agree : ∀ name, bodyAsks name nodes = true → lookup? name context = lookup? name context') :
    shelf.text nodes context = shelf.text nodes context' := by
  -- A name that neither context has stands for the shared operation in both.
  have scopes : Agree (fun name => bodyAsks name nodes = true) (context ++ helpers)
      (context' ++ helpers) := by
    intro name asks
    rw [named, named, Medium.named, Medium.named, lookup?_append, lookup?_append, agree name asks]
  have texts : (renderNodes (shelf.insert insertDepth) (context ++ helpers) nodes >>=
        fun rendered => .ok rendered.1) =
      renderNodes (shelf.insert insertDepth) (context' ++ helpers) nodes >>=
        fun rendered => .ok rendered.1 :=
    (renderNodes_agree nodes closed scopes fun _ => id).map_eq fun _ _ both => both.1
  have passive := Shelf.Passive.of_closed unsent closed shelf
  -- Without methods the text is that among plain values, unless a name is reserved.
  rw [passive.text_eq, passive.text_eq, reserved, texts]

end Tablewright.Template
