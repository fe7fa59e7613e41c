/-! The parts of a template: expressions, and the nodes that produce its text. -/

namespace Tablewright.Template

/-- An expression of the template language. -/
inductive Expr where
  | null
  | bool (b : Bool)
  | int (n : Nat)
  | text (s : String)
  /-- The value that goes by this name. -/
  | named (name : String)
  /-- The member of this name. -/
  | member (owner : Expr) (name : String)
  /-- The element under a key. -/
  | element (owner key : Expr)
  | call (operation : Expr) (arguments : List Expr)
  | filter (name : String) (subject : Expr) (arguments : List Expr)
  | test (name : String) (subject : Expr) (arguments : List Expr)
  | not (operand : Expr)
  | and (left right : Expr)
  | or (left right : Expr)
  /-- A first operand and further ones, each equal to its predecessor where the mark is true. -/
  | compare (first : Expr) (others : List (Bool × Expr))
  /-- The texts of the operands one after another. -/
  | concat (operands : List Expr)
  | choose (condition whenTrue whenFalse : Expr)
  deriving Inhabited, Repr

/-- A node of a template. -/
inductive Node where
  /-- Text that stands for itself. -/
  | text (s : String)
  /-- The text of an expression's value. -/
  | print (value : Expr)
  /-- The first branch whose condition holds, or the last nodes when none does. -/
  | branch (cases : List (Expr × List Node)) (otherwise : List Node)
  /-- The body once for each element, or the last nodes when there is none. -/
  | each (name : String) (elements : Expr) (body otherwise : List Node)
  /-- Gives a name to a value. -/
  | bind (name : String) (value : Expr)
  /-- Gives a name to the text of a body. -/
  | capture (name : String) (body : List Node)
  /-- The text of another template. -/
  | insert (file : Expr)
  deriving Inhabited, Repr

end Tablewright.Template
