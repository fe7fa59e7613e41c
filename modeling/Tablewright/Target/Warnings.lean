import Tablewright.Generation.Warnings
import Tablewright.Target.Identifier
import Tablewright.Naming

/-! Warnings about the names that generated Go source would hold. -/

namespace Tablewright.Target

/-- The warnings about a name that belongs to the table itself. -/
def tableProblems (table name : Value) : Except Fault (List String) := do
  return (← nameProblemsOf name).map fun problem =>
    "Table " ++ table.inMessage ++ ": " ++ problem.message

/-- The warning about a variable of a name that generated functions use themselves. -/
def localClash (table name : Value) : Except Fault (List String) := do
  if ← name.memberOf (templateLocals.map .text) then
    return ["Table " ++ table.inMessage ++ ": variable '" ++ name.inMessage ++
      "' clashes with a name used by the generated code"]
  else return []

/-- The warnings about the variable of the table, when it has one. -/
def variableWarnings (table : Value) : Option Value → Except Fault (List String)
  | none | some .null => pure []
  | some name => do
    let problems ← tableProblems table name
    return problems ++ (← localClash table name)

/-- The warning about two columns whose names give the same field. -/
def fieldClash (table name : Value) (field : String) : Option Value → List String
  | none => []
  | some other =>
    if other.same name then []
    else ["Columns " ++ columnPlace table other ++ " and " ++ columnPlace table name ++
      " both map to field " ++ field]

/-- The warning about a column without a type. -/
def typeWarning (table name column : Value) : Except Fault (List String) := do
  if ← (column.columnPart "type" (.text "")).truth then return []
  else return ["Column " ++ columnPlace table name ++ " has no Go type"]

/-- The warnings about columns; `fields` holds the first column that gave each field its name. -/
def columnWarnings (table : Value) (fields : List (String × Value)) :
    List Value → Except Fault (List String)
  | [] => pure []
  | column :: rest => do
    let name := nameOf column
    let field ← Naming.typeNameOf name
    let problems := (nameProblems field).map fun problem =>
      "Column " ++ columnPlace table name ++ ": " ++ problem.message
    let earlier := lookup? field fields
    let untyped ← typeWarning table name column
    -- A field belongs to the first column that gave it, whatever comes later.
    let kept := if earlier.isSome then fields else (field, name) :: fields
    let others ← columnWarnings table kept rest
    return problems ++ fieldClash table name field earlier ++ untyped ++ others

/-- The warnings about the values that Go source is generated from. -/
def warnings (context : Context) : Except Fault (List String) := do
  let general ← contextWarnings context
  let table := tableNameIn context
  -- The name is derived from the table even where the context has one of its own.
  let derived ← Naming.typeNameOf table
  let structName := (lookup? "struct_name" context).getD (.text derived)
  let structProblems ← tableProblems table structName
  let varWarnings ← variableWarnings table (lookup? "var_name" context)
  let columns ← columnWarnings table [] (← (columnsIn context).elements)
  return general ++ structProblems ++ varWarnings ++ columns

end Tablewright.Target
