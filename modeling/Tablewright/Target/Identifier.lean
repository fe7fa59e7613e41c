import Tablewright.Text.Identifier
import Tablewright.Value.Access

/-! The words of Go with a meaning, and what keeps a derived name from being a usable identifier. -/

namespace Tablewright.Target

/-- The keywords of the language. -/
def reservedWords : List String :=
  ["break", "case", "chan", "const", "continue", "default", "defer", "else", "fallthrough", "for",
    "func", "go", "goto", "if", "import", "interface", "map", "package", "range", "return",
    "select", "struct", "switch", "type", "var"]

/-- The types and functions that are declared before any program. -/
def predeclared : List String :=
  ["any", "bool", "byte", "comparable", "complex64", "complex128", "error", "float32", "float64",
    "int", "int8", "int16", "int32", "int64", "rune", "string", "uint", "uint8", "uint16",
    "uint32", "uint64", "uintptr", "append", "cap", "clear", "close", "complex", "copy", "delete",
    "imag", "len", "make", "max", "min", "new", "panic", "print", "println", "real", "recover"]

/-- The names that generated functions declare beside the variable of their table. -/
def templateLocals : List String := ["db", "err", "errors", "sql"]

/-- What is wrong with a derived name. -/
inductive NameProblem where
  | empty
  | invalid (name : String)
  | reserved (name : String)
  | shadowing (name : String)
  deriving DecidableEq, Repr

/-- What is said of a problem. -/
def NameProblem.message : NameProblem → String
  | .empty => "derived identifier is empty"
  | .invalid name => "'" ++ name ++ "' is not a valid Go identifier"
  | .reserved name => "'" ++ name ++ "' is a Go reserved word"
  | .shadowing name => "'" ++ name ++ "' shadows a Go predeclared identifier"

/-- The problem with a name that is no identifier. -/
def shapeProblems (name : String) : List NameProblem :=
  if Text.isIdentifier name then [] else [.invalid name]

/-- The problem with a name that means something already. -/
def meaningProblems (name : String) : List NameProblem :=
  if reservedWords.contains name then [.reserved name]
  else if predeclared.contains name then [.shadowing name]
  else []

/-- The problems with a derived name. -/
def nameProblems (name : String) : List NameProblem :=
  if name = "" then [.empty] else shapeProblems name ++ meaningProblems name

/-- The problems with a derived name that is still unchecked. -/
def nameProblemsOf (name : Value) : Except Fault (List NameProblem) := do
  -- Whatever is untrue counts as no name at all.
  if ← name.truth then return nameProblems (← name.asText "isidentifier")
  else return [.empty]

end Tablewright.Target
