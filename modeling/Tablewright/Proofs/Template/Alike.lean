import Tablewright.Template.Syntax

/-! Equality of template nodes is decided by comparing them part by part. -/

namespace Tablewright.Template

mutual

/-- Whether two expressions are built alike. -/
def Expr.alike : Expr → Expr → Bool
  | .null, .null => true
  | .bool a, .bool b => a == b
  | .int m, .int n => m == n
  | .text s, .text t | .named s, .named t => s == t
  | .member a s, .member b t => a.alike b && s == t
  | .element a k, .element b l => a.alike b && k.alike l
  | .call f xs, .call g ys => f.alike g && exprsAlike xs ys
  | .filter s a xs, .filter t b ys | .test s a xs, .test t b ys =>
    s == t && a.alike b && exprsAlike xs ys
  | .not a, .not b => a.alike b
  | .and a c, .and b d | .or a c, .or b d => a.alike b && c.alike d
  | .compare a xs, .compare b ys => a.alike b && comparedAlike xs ys
  | .concat xs, .concat ys => exprsAlike xs ys
  | .choose c a a', .choose d b b' => c.alike d && a.alike b && a'.alike b'
  | _, _ => false

/-- Whether expressions in a row are built alike. -/
def exprsAlike : List Expr → List Expr → Bool
  | [], [] => true
  | a :: xs, b :: ys => a.alike b && exprsAlike xs ys
  | _, _ => false

/-- Whether compared operands are built alike. -/
def comparedAlike : List (Bool × Expr) → List (Bool × Expr) → Bool
  | [], [] => true
  | (m, a) :: xs, (n, b) :: ys => m == n && a.alike b && comparedAlike xs ys
  | _, _ => false

end

mutual

/-- Expressions that are built alike are one expression. -/
theorem Expr.alike_iff (a b : Expr) : a.alike b = true ↔ a = b := by
  -- Off the diagonal both sides are false, and on it the parts decide.
  cases a <;> cases b <;>
    simp [Expr.alike, Expr.alike_iff, exprsAlike_iff, comparedAlike_iff, and_assoc]

/-- Expressions in a row that are built alike are the same ones. -/
theorem exprsAlike_iff (xs ys : List Expr) : exprsAlike xs ys = true ↔ xs = ys := by
  cases xs <;> cases ys <;> simp [exprsAlike, Expr.alike_iff, exprsAlike_iff]

/-- Compared operands that are built alike are the same ones. -/
theorem comparedAlike_iff (xs ys : List (Bool × Expr)) : comparedAlike xs ys = true ↔ xs = ys := by
  cases xs <;> cases ys <;>
    simp [comparedAlike, Expr.alike_iff, comparedAlike_iff, Prod.ext_iff]

end

instance : DecidableEq Expr := fun a b => decidable_of_iff _ (Expr.alike_iff a b)

mutual

/-- Whether two nodes are built alike. -/
def Node.alike : Node → Node → Bool
  | .text s, .text t => s == t
  | .print a, .print b | .insert a, .insert b => a == b
  | .branch cases otherwise, .branch cases' otherwise' =>
    casesAlike cases cases' && nodesAlike otherwise otherwise'
  | .each s a body otherwise, .each t b body' otherwise' =>
    s == t && a == b && nodesAlike body body' && nodesAlike otherwise otherwise'
  | .bind s a, .bind t b => s == t && a == b
  | .capture s body, .capture t body' => s == t && nodesAlike body body'
  | _, _ => false

/-- Whether nodes in a row are built alike. -/
def nodesAlike : List Node → List Node → Bool
  | [], [] => true
  | a :: xs, b :: ys => a.alike b && nodesAlike xs ys
  | _, _ => false

/-- Whether branches are built alike. -/
def casesAlike : List (Expr × List Node) → List (Expr × List Node) → Bool
  | [], [] => true
  | (a, body) :: xs, (b, body') :: ys => a == b && nodesAlike body body' && casesAlike xs ys
  | _, _ => false

end

mutual

/-- Nodes that are built alike are one node. -/
theorem Node.alike_iff (a b : Node) : a.alike b = true ↔ a = b := by
  cases a <;> cases b <;>
    simp [Node.alike, nodesAlike_iff, casesAlike_iff, and_assoc]

/-- Nodes in a row that are built alike are the same ones. -/
theorem nodesAlike_iff (xs ys : List Node) : nodesAlike xs ys = true ↔ xs = ys := by
  cases xs <;> cases ys <;> simp [nodesAlike, Node.alike_iff, nodesAlike_iff]

/-- Branches that are built alike are the same ones. -/
theorem casesAlike_iff (xs ys : List (Expr × List Node)) : casesAlike xs ys = true ↔ xs = ys := by
  cases xs <;> cases ys <;> simp [casesAlike, nodesAlike_iff, casesAlike_iff, Prod.ext_iff]

end

instance : DecidableEq Node := fun a b => decidable_of_iff _ (Node.alike_iff a b)

end Tablewright.Template
