import Tablewright.Template.Stream
import Tablewright.Template.Syntax

/-! Expressions read from tokens, each kind of operator binding closer than the one before it.

What is read are names, texts, whole numbers and constants, members, elements, calls with arguments
in order, filters, tests, the junctions, equality, concatenation and choices. Arithmetic, order,
membership, slices, lists and records in brackets, and arguments by name are outside of what is
modelled: a source that uses one of them counts as malformed. -/

namespace Tablewright.Template

/-- Operands joined by a word, leftmost first; `fuel` bounds their number. -/
def chained (operand : Parse Expr) (word : String) (join : Expr → Expr → Expr) :
    Nat → Expr → Parse Expr
  | 0, left => return left
  | fuel + 1, left => do
    if ← takes (.name word) then
      let right ← operand
      chained operand word join fuel (join left right)
    else return left

/-- Whether an expression cannot start here because its tag or its brackets end. -/
def endsExpression : Option Token → Bool
  | some .printEnd | some .blockEnd | some (.symbol .closeParen) => true
  | _ => false

/-- An expression that has to be there; `ends` tells the tokens that end it before it starts. -/
def required (ends : Option Token → Bool) (expression : Parse Expr) : Parse Expr := do
  let token ← current
  if ends token then throw (.lacksExpression (describedOrEnd token))
  else expression

/-- Texts that follow each other, put together. -/
def adjacentTexts : Nat → String → Parse String
  | 0, s => return s
  | fuel + 1, s => do
    match ← current with
    | some (.text t) => advance; adjacentTexts fuel (s ++ t)
    | _ => return s

/-- What a name stands for: one of the constants, or a value of the context. -/
def nameExpr : String → Expr
  | "true" | "True" => .bool true
  | "false" | "False" => .bool false
  | "none" | "None" => .null
  | s => .named s

/-- A name, a literal, or an expression in parentheses. -/
def primary (nested : Parse Expr) (fuel : Nat) : Parse Expr := do
  let token ← current
  match token with
  | some (.name s) => advance; return nameExpr s
  | some (.text s) => advance; return .text (← adjacentTexts fuel s)
  | some (.int n) => advance; return .int n
  | some (.symbol .openParen) =>
    advance
    let inner ← required endsExpression nested
    expect (.symbol .closeParen)
    return inner
  | _ => throw (.unexpected (describedOrEnd token))

/-- Arguments behind the first one, up to the closing parenthesis. -/
def furtherArguments (nested : Parse Expr) : Nat → List Expr → Parse (List Expr)
  | 0, _ => throw .tooDeep
  | fuel + 1, taken => do
    if ← takes (.symbol .closeParen) then return taken.reverse
    expect (.symbol .comma)
    -- A comma may also stand behind the last argument.
    if ← takes (.symbol .closeParen) then return taken.reverse
    furtherArguments nested fuel ((← nested) :: taken)

/-- Arguments in parentheses. -/
def arguments (nested : Parse Expr) (fuel : Nat) : Parse (List Expr) := do
  expect (.symbol .openParen)
  if ← takes (.symbol .closeParen) then return []
  furtherArguments nested fuel [← nested]

/-- Arguments in parentheses, or none at all. -/
def optionalArguments (nested : Parse Expr) (fuel : Nat) : Parse (List Expr) := do
  if (← current) = some (.symbol .openParen) then arguments nested fuel else return []

/-- A member by name, or an element by number, behind a dot. -/
def afterDot (owner : Expr) : Parse Expr := do
  advance
  match ← current with
  | some (.name s) => advance; return .member owner s
  | some (.int n) => advance; return .element owner (.int n)
  | _ =>
    advance
    throw .lacksMember

/-- An element by its key in brackets. -/
def afterBracket (nested : Parse Expr) (owner : Expr) : Parse Expr := do
  advance
  let key ← nested
  expect (.symbol .closeBracket)
  return .element owner key

/-- Members, elements and calls behind an expression. -/
def postfixes (nested : Parse Expr) : Nat → Expr → Parse Expr
  | 0, _ => throw .tooDeep
  | fuel + 1, owner => do
    match ← current with
    | some (.symbol .dot) => postfixes nested fuel (← afterDot owner)
    | some (.symbol .openBracket) => postfixes nested fuel (← afterBracket nested owner)
    | some (.symbol .openParen) => postfixes nested fuel (.call owner (← arguments nested fuel))
    | _ => return owner

/-- Whether a token can start the one argument that a test takes without parentheses. -/
def startsTestArgument : Option Token → Bool
  | some (.name s) => !(["else", "or", "and"].contains s)
  | some (.text _) | some (.int _) => true
  | some (.symbol sign) => sign = .openBracket ∨ sign = .openBrace
  | _ => false

/-- The arguments of a test: in parentheses, or one without. -/
def testArguments (nested : Parse Expr) (fuel : Nat) : Parse (List Expr) := do
  let token ← current
  if token = some (.symbol .openParen) then arguments nested fuel
  else if startsTestArgument token then
    if token = some (.name "is") then throw .chainedTests
    let argument ← primary nested fuel
    return [← postfixes nested fuel argument]
  else return []

/-- A test behind `is`, which may be turned around by `not`. -/
def afterIs (nested : Parse Expr) (fuel : Nat) (subject : Expr) : Parse Expr := do
  advance
  let negated ← takes (.name "not")
  let name ← expectName
  let test := Expr.test name subject (← testArguments nested fuel)
  return if negated then .not test else test

/-- A filter behind a bar. -/
def afterBar (nested : Parse Expr) (fuel : Nat) (subject : Expr) : Parse Expr := do
  advance
  let name ← expectName
  return .filter name subject (← optionalArguments nested fuel)

/-- Filters and tests behind an expression, and calls of their results. -/
def refinements (nested : Parse Expr) : Nat → Expr → Parse Expr
  | 0, _ => throw .tooDeep
  | fuel + 1, subject => do
    match ← current with
    | some (.symbol .pipe) => refinements nested fuel (← afterBar nested fuel subject)
    | some (.name "is") => refinements nested fuel (← afterIs nested fuel subject)
    | some (.symbol .openParen) =>
      refinements nested fuel (.call subject (← arguments nested fuel))
    | _ => return subject

/-- An operand with everything that binds to it. -/
def refined (nested : Parse Expr) (fuel : Nat) : Parse Expr := do
  let bare ← primary nested fuel
  let owner ← postfixes nested fuel bare
  refinements nested fuel owner

/-- Operands behind the first one of those whose texts are put together. -/
def furtherOperands (operand : Parse Expr) : Nat → List Expr → Parse (List Expr)
  | 0, _ => throw .tooDeep
  | fuel + 1, taken => do
    if ← takes (.symbol .tilde) then furtherOperands operand fuel ((← operand) :: taken)
    else return taken.reverse

/-- Operands whose texts are put together. -/
def concatenation (nested : Parse Expr) (fuel : Nat) : Parse Expr := do
  let first ← refined nested fuel
  match ← furtherOperands (refined nested fuel) fuel [first] with
  | [single] => return single
  | operands => return .concat operands

/-- Comparisons behind the first operand, each with whether it asks for equality. -/
def comparisons (operand : Parse Expr) : Nat → List (Bool × Expr) → Parse (List (Bool × Expr))
  | 0, _ => throw .tooDeep
  | fuel + 1, taken => do
    if ← takes (.symbol .equal) then comparisons operand fuel ((true, ← operand) :: taken)
    else if ← takes (.symbol .unequal) then comparisons operand fuel ((false, ← operand) :: taken)
    else return taken.reverse

/-- Operands compared with their neighbours. -/
def comparison (nested : Parse Expr) (fuel : Nat) : Parse Expr := do
  let first ← concatenation nested fuel
  match ← comparisons (concatenation nested fuel) fuel [] with
  | [] => return first
  | others => return .compare first others

/-- A comparison behind any number of negations. -/
def negation (nested : Parse Expr) (operators : Nat) : Nat → Parse Expr
  | 0 => throw .tooDeep
  | fuel + 1 => do
    if ← takes (.name "not") then return .not (← negation nested operators fuel)
    else comparison nested operators

/-- Operands that all have to hold. -/
def conjunction (nested : Parse Expr) (fuel : Nat) : Parse Expr := do
  let first ← negation nested fuel fuel
  chained (negation nested fuel fuel) "and" .and fuel first

/-- Operands of which one has to hold. -/
def disjunction (nested : Parse Expr) (fuel : Nat) : Parse Expr := do
  let first ← conjunction nested fuel
  chained (conjunction nested fuel) "or" .or fuel first

/-- Choices behind the value they take when their condition holds. -/
def choices (nested : Parse Expr) (operators : Nat) : Nat → Expr → Parse Expr
  | 0, _ => throw .tooDeep
  | fuel + 1, whenTrue => do
    if ← takes (.name "if") then
      let condition ← disjunction nested operators
      expect (.name "else")
      let whenFalse ← nested
      choices nested operators fuel (.choose condition whenTrue whenFalse)
    else return whenTrue

/-- An expression of any kind; `depth` bounds its nesting and `fuel` each of its loops. -/
def expression (fuel : Nat) : Nat → Parse Expr
  | 0 => throw .tooDeep
  | depth + 1 => do
    let first ← disjunction (expression fuel depth) fuel
    choices (expression fuel depth) fuel fuel first

/-- An expression without a choice outside of parentheses. -/
def condition (fuel depth : Nat) : Parse Expr := disjunction (expression fuel depth) fuel

end Tablewright.Template
