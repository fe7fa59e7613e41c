import Tablewright.Template.Nodes
import Tablewright.Template.Vocabulary

/-! Templates whose words are all known; inside conditions an unknown one may still stand. -/

namespace Tablewright.Template

/-- Why a source makes no template. -/
inductive CompileFault where
  | malformed (cause : SyntaxFault)
  | unknownFilter (name : String)
  | unknownTest (name : String)
  /-- A loop gives a value to the name that tells where the loop stands. -/
  | assignsLoop
  /-- No source was added under this file name. -/
  | notAdded (file : String)
  deriving DecidableEq, Repr

/-- What is said of a source that makes no template. -/
def CompileFault.message : CompileFault → String
  | .malformed cause => cause.message
  | .unknownFilter name => "No filter named " ++ Text.quoted name ++ "."
  | .unknownTest name => "No test named " ++ Text.quoted name ++ "."
  | .assignsLoop => "Can't assign to special loop variable in for-loop target"
  | .notAdded file => file

/-- The name under which a loop tells where it stands. -/
def loopName : String := "loop"

/-- Fails when something is unknown and has to be known. -/
def demand (lenient : Bool) (known : Bool) (cause : CompileFault) : Except CompileFault Unit :=
  if known || lenient then pure () else throw cause

mutual

/-- Checks the words of an expression, outer ones first. -/
def Expr.check (lenient : Bool) : Expr → Except CompileFault Unit
  | .null | .bool _ | .int _ | .text _ | .named _ => pure ()
  | .member owner _ => owner.check lenient
  | .element owner key => do
    owner.check lenient
    key.check lenient
  | .call operation arguments => do
    operation.check lenient
    checkExprs lenient arguments
  | .filter name subject arguments => do
    demand lenient (Filter.ofName? name).isSome (.unknownFilter name)
    subject.check lenient
    checkExprs lenient arguments
  | .test name subject arguments => do
    demand lenient (Test.ofName? name).isSome (.unknownTest name)
    subject.check lenient
    checkExprs lenient arguments
  | .not operand => operand.check lenient
  | .and left right | .or left right => do
    left.check lenient
    right.check lenient
  | .compare first others => do
    first.check lenient
    checkCompared lenient others
  | .concat operands => checkExprs lenient operands
  -- What a choice leaves out never runs, so its words may be unknown.
  | .choose condition whenTrue whenFalse => do
    condition.check true
    whenTrue.check true
    whenFalse.check true

/-- Checks the words of expressions in a row. -/
def checkExprs (lenient : Bool) : List Expr → Except CompileFault Unit
  | [] => pure ()
  | expr :: rest => do
    expr.check lenient
    checkExprs lenient rest

/-- Checks the words of compared operands. -/
def checkCompared (lenient : Bool) : List (Bool × Expr) → Except CompileFault Unit
  | [] => pure ()
  | (_, expr) :: rest => do
    expr.check lenient
    checkCompared lenient rest

end

mutual

/-- Whether a node gives a value to a name. -/
def Node.assigns (name : String) : Node → Bool
  | .text _ | .print _ | .insert _ => false
  | .branch cases otherwise => caseAssigns name cases || anyAssigns name otherwise
  | .each target _ body otherwise =>
    target == name || anyAssigns name body || anyAssigns name otherwise
  | .bind target _ => target == name
  | .capture target body => target == name || anyAssigns name body

/-- Whether one of the nodes gives a value to a name. -/
def anyAssigns (name : String) : List Node → Bool
  | [] => false
  | node :: rest => node.assigns name || anyAssigns name rest

/-- Whether a branch gives a value to a name. -/
def caseAssigns (name : String) : List (Expr × List Node) → Bool
  | [] => false
  | (_, body) :: rest => anyAssigns name body || caseAssigns name rest

end

mutual

/-- Checks the words of a node; a branch may never run, but the body of a loop is checked anew. -/
def Node.check (lenient : Bool) : Node → Except CompileFault Unit
  | .text _ => pure ()
  | .print value => value.check lenient
  | .branch cases otherwise => do
    checkCases cases
    checkNodes true otherwise
  | .each name elements body otherwise => do
    -- The loop's own name may not be given another value inside of it.
    demand false (!(Node.each name elements body otherwise).assigns loopName) .assignsLoop
    elements.check lenient
    checkNodes false body
    checkNodes false otherwise
  | .bind _ value => value.check lenient
  | .capture _ body => checkNodes false body
  | .insert file => file.check lenient

/-- Checks the words of nodes in a row. -/
def checkNodes (lenient : Bool) : List Node → Except CompileFault Unit
  | [] => pure ()
  | node :: rest => do
    node.check lenient
    checkNodes lenient rest

/-- Checks the words of branches. -/
def checkCases : List (Expr × List Node) → Except CompileFault Unit
  | [] => pure ()
  | (condition, body) :: rest => do
    condition.check true
    checkNodes true body
    checkCases rest

end

/-- The nodes of a source whose words are all known, as far as the tags, the expressions and the
words of the language are modelled. -/
def compileNodes (source : String) : Except CompileFault (List Node) := do
  let nodes ← (nodesOf source).mapError CompileFault.malformed
  checkNodes false nodes
  return nodes

end Tablewright.Template
