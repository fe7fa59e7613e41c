import Tablewright.Template.Evaluation

/-! The text of a template among named values. -/

namespace Tablewright.Template

mutual

/-- Whether an expression asks for a name. -/
def Expr.mentions (name : String) : Expr → Bool
  | .null | .bool _ | .int _ | .text _ => false
  | .named other => other == name
  | .member owner _ => owner.mentions name
  | .element owner key => owner.mentions name || key.mentions name
  | .call operation arguments => operation.mentions name || anyMentions name arguments
  | .filter _ subject arguments | .test _ subject arguments =>
    subject.mentions name || anyMentions name arguments
  | .not operand => operand.mentions name
  | .and left right | .or left right => left.mentions name || right.mentions name
  | .compare first others => first.mentions name || comparedMentions name others
  | .concat operands => anyMentions name operands
  | .choose condition whenTrue whenFalse =>
    condition.mentions name || whenTrue.mentions name || whenFalse.mentions name

/-- Whether one of the expressions asks for a name. -/
def anyMentions (name : String) : List Expr → Bool
  | [] => false
  | expr :: rest => expr.mentions name || anyMentions name rest

/-- Whether one of the compared operands asks for a name. -/
def comparedMentions (name : String) : List (Bool × Expr) → Bool
  | [] => false
  | (_, expr) :: rest => expr.mentions name || comparedMentions name rest

end

mutual

/-- Whether a node asks for a name. -/
def Node.mentions (name : String) : Node → Bool
  | .text _ => false
  | .print value | .bind _ value => value.mentions name
  | .branch cases otherwise => caseMentions name cases || bodyMentions name otherwise
  | .each _ elements body otherwise =>
    elements.mentions name || bodyMentions name body || bodyMentions name otherwise
  -- A name that is given a value is not asked for by that.
  | .capture _ body => bodyMentions name body
  | .insert file => file.mentions name

/-- Whether one of the nodes asks for a name. -/
def bodyMentions (name : String) : List Node → Bool
  | [] => false
  | node :: rest => node.mentions name || bodyMentions name rest

/-- Whether a branch asks for a name. -/
def caseMentions (name : String) : List (Expr × List Node) → Bool
  | [] => false
  | (condition, body) :: rest =>
    condition.mentions name || bodyMentions name body || caseMentions name rest

end

section

variable {m : Type → Type} {α : Type}

/-- Gives the text of another template among named values. -/
abbrev Inserting (m : Type → Type) (α : Type) := α → List (String × α) → m String

variable [Monad m] [MonadLiftT (Except RunFault) m] (medium : Medium m α)

/-- The names inside a round of a loop; the loop tells where it stands only where it is asked. -/
def roundScopeIn (scope : List (String × α)) (name : String) (body : List Node) (length : Nat)
    (done : Nat) (element : α) : List (String × α) :=
  let told := if bodyMentions loopName body then
    [(loopName, medium.leaf (.loop ⟨done, length⟩))] else []
  (name, element) :: told ++ scope

variable (insert : Inserting m α)

mutual

/-- The text of a node, and the names as they are behind it. -/
def Node.renderIn (scope : List (String × α)) : Node → m (String × List (String × α))
  | .text s => pure (s, scope)
  | .print value => do
    let shown ← value.evalIn medium scope
    return (← run (← medium.look shown).print, scope)
  | .branch cases otherwise => do
    match ← renderCasesIn scope cases with
    | some taken => return taken
    | none => renderNodesIn scope otherwise
  -- What a round of a loop gives names to is forgotten behind the round.
  | .each name elements body otherwise => do
    let items ← medium.elements (← elements.evalIn medium scope)
    if items.isEmpty then
      let (text, _) ← renderNodesIn scope otherwise
      return (text, scope)
    else
      let rounds ← items.zipIdx.mapM fun (item, done) => do
        let (text, _) ←
          renderNodesIn (roundScopeIn medium scope name body items.length done item) body
        return text
      return (String.join rounds, scope)
  | .bind name value => do return ("", (name, ← value.evalIn medium scope) :: scope)
  | .capture name body => do
    let (text, _) ← renderNodesIn scope body
    return ("", (name, medium.leaf (.text text)) :: scope)
  | .insert file => do return (← insert (← file.evalIn medium scope) scope, scope)

/-- The text of nodes in a row, and the names as they are behind them. -/
def renderNodesIn (scope : List (String × α)) : List Node → m (String × List (String × α))
  | [] => pure ("", scope)
  | node :: rest => do
    let (text, next) ← node.renderIn scope
    let (more, last) ← renderNodesIn next rest
    return (text ++ more, last)

/-- The text of the first branch whose condition holds, when there is one. -/
def renderCasesIn (scope : List (String × α)) :
    List (Expr × List Node) → m (Option (String × List (String × α)))
  | [] => pure none
  | (condition, body) :: rest => do
    let value ← condition.evalIn medium scope
    if ← run (← medium.look value).truth then return some (← renderNodesIn scope body)
    else renderCasesIn scope rest

end

end

end Tablewright.Template
