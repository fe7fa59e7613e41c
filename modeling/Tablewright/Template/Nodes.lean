import Tablewright.Template.Expression
import Tablewright.Template.Tokens

/-! A template as its nodes, read from its tokens.

The tags that are read are those of loops over one name, branches, bindings of one name, inserted
files and raw text. Macros, blocks, inheritance, imports and all other tags of the language are
outside of what is modelled, and count as unknown. -/

namespace Tablewright.Template

/-- Reads the nodes inside the given blocks, innermost first, up to a tag that the first awaits. -/
abbrev Body := List OpenBlock → Parse (List Node)

/-- The body of a block behind the rest of its tag, up to one of the awaited tags. -/
def blockBody (body : Body) (blocks : List OpenBlock) (block : OpenBlock) : Parse (List Node) := do
  -- A colon may stand at the end of the tag.
  let _ ← takes (.symbol .colon)
  expect .blockEnd
  let nodes ← body (block :: blocks)
  if (← current).isNone then throw (.unclosedBlock (block :: blocks))
  return nodes

/-- The last body of a block, with the tag that closes it. -/
def lastBody (body : Body) (blocks : List OpenBlock) (block : OpenBlock) : Parse (List Node) := do
  let nodes ← blockBody body blocks block
  advance
  return nodes

/-- What a message calls an expression that cannot take a value. -/
def assignedName : Expr → Except SyntaxFault String
  | .named s => pure s
  | .null | .bool _ | .int _ | .text _ => throw (.notAssignable "const")
  | _ => throw (.notAssignable "expression")

/-- The name that a tag gives a value to. -/
def target (ends : Option Token → Bool) (fuel depth : Nat) : Parse String := do
  let expr ← required ends (primary (expression fuel depth) fuel)
  assignedName expr

/-- A loop: what it goes over, its body, and what stands for it when there is nothing. -/
def loopTag (body : Body) (blocks : List OpenBlock) (fuel depth : Nat) : Parse Node := do
  let name ← target (fun t => endsExpression t || t == some (.name "in")) fuel depth
  expect (.name "in")
  let ends := fun t => endsExpression t || t == some (.name "recursive")
  let elements ← required ends (condition fuel depth)
  let nodes ← blockBody body blocks ⟨"for", ["endfor", "else"]⟩
  -- What follows the body is the end of the loop, or what stands for rounds that there are not.
  if ← takes (.name "endfor") then return .each name elements nodes []
  advance
  return .each name elements nodes (← lastBody body blocks ⟨"for", ["endfor"]⟩)

/-- The branches of a condition, and what stands for them when none is taken. -/
def branchTags (body : Body) (blocks : List OpenBlock) (depth fuel : Nat) :
    Nat → List (Expr × List Node) → Parse Node
  | 0, _ => throw .tooDeep
  | count + 1, taken => do
    let test ← required endsExpression (condition fuel depth)
    let nodes ← blockBody body blocks ⟨"if", ["elif", "else", "endif"]⟩
    let cases := (test, nodes) :: taken
    if ← takes (.name "elif") then branchTags body blocks depth fuel count cases
    else if ← takes (.name "else") then
      return .branch cases.reverse (← lastBody body blocks ⟨"if", ["endif"]⟩)
    else
      advance
      return .branch cases.reverse []

/-- A value under a name, or the text of a body when no value is given. -/
def bindTag (body : Body) (blocks : List OpenBlock) (fuel depth : Nat) : Parse Node := do
  let name ← target endsExpression fuel depth
  if ← takes (.symbol .assign) then
    return .bind name (← required endsExpression (expression fuel depth))
  return .capture name (← lastBody body blocks ⟨"set", ["endset"]⟩)

/-- The tag whose name is at the front, up to its end. -/
def tagNode (body : Body) (blocks : List OpenBlock) (fuel depth : Nat) : Parse Node := do
  match ← current with
  | some (.name "for") => advance; loopTag body blocks fuel depth
  | some (.name "if") => advance; branchTags body blocks depth fuel fuel []
  | some (.name "set") => advance; bindTag body blocks fuel depth
  | some (.name "include") => advance; return .insert (← expression fuel depth)
  | some (.name s) => throw (.unknownTag s blocks)
  | _ => throw .lacksTag

/-- Whether the tag whose name is at the front is one that the innermost block awaits. -/
def atAwaited (blocks : List OpenBlock) : Parse Bool := do
  match ← current, blocks with
  | some (.name s), block :: _ => return block.awaited.contains s
  | _, _ => return false

/-- Nodes up to a tag that the innermost block awaits, or to the end; `depth` bounds the steps. -/
def nodesWithin (fuel : Nat) : Nat → Body
  | 0, _ => throw .tooDeep
  | depth + 1, blocks => do
    match ← current with
    | some (.data s) =>
      advance
      return .text s :: (← nodesWithin fuel depth blocks)
    | some .printBegin =>
      advance
      let value ← required endsExpression (expression fuel fuel)
      expect .printEnd
      return .print value :: (← nodesWithin fuel depth blocks)
    | some .blockBegin =>
      advance
      -- The tag that ends the block is left for the block to look at.
      if ← atAwaited blocks then return []
      let node ← tagNode (nodesWithin fuel depth) blocks fuel fuel
      expect .blockEnd
      return node :: (← nodesWithin fuel depth blocks)
    | _ => return []

/-- The nodes of a template, or why its source is none. -/
def nodesOf (source : String) : Except SyntaxFault (List Node) := do
  -- Each round of a loop and each level of nesting takes a token.
  let tokens ← checkFirst (tokensOf source)
  let bound := tokens.length + 1
  let (nodes, _) ← (nodesWithin bound bound []).run tokens
  return nodes

end Tablewright.Template
