import Tablewright.Template.Token

/-! Tokens taken one after another, where a faulty one is noticed as soon as it comes up. -/

namespace Tablewright.Template

/-- A computation that takes tokens from the front, or fails. -/
abbrev Parse := StateT (List Token) (Except SyntaxFault)

/-- Tokens whose first one, if any, is sound. -/
def checkFirst (tokens : List Token) : Except SyntaxFault (List Token) :=
  match tokens with
  | .fault cause :: _ => throw cause
  | _ => pure tokens

/-- The token at the front, or none at the end of the template. -/
def current : Parse (Option Token) := do return (← get).head?

/-- Takes the token at the front; the one behind it comes up. -/
def advance : Parse Unit := do
  set (← checkFirst (← get).tail)

/-- How a message speaks of the token at the front. -/
def describedOrEnd : Option Token → String
  | none => "end of template"
  | some token => token.described

/-- Takes a token that has to come up here. -/
def expect (wanted : Token) : Parse Unit := do
  match ← current with
  | none => throw (.expectedBeforeEnd wanted.described)
  | some token =>
    if token = wanted then advance
    else throw (.expected wanted.described token.described)

/-- Takes a name, whichever it is. -/
def expectName : Parse String := do
  match ← current with
  | none => throw (.expectedBeforeEnd "name")
  | some (.name s) => advance; return s
  | some token => throw (.expected "name" token.described)

/-- Takes a token if it comes up here, and says whether it did. -/
def takes (wanted : Token) : Parse Bool := do
  if (← current) = some wanted then
    advance
    return true
  else return false

end Tablewright.Template
