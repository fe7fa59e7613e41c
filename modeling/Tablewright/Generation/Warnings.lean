import Tablewright.Table
import Tablewright.Value.Same

/-! Warnings about the values that source is generated from. -/

namespace Tablewright

/-- The table name that messages speak of. -/
def tableNameIn (context : Context) : Value := (lookup? "table_name" context).getD (.text "")

/-- The columns of a context. -/
def columnsIn (context : Context) : Value := (lookup? "columns" context).getD (.list [])

/-- A column of a table in messages. -/
def columnPlace (table column : Value) : String := table.inMessage ++ "." ++ column.inMessage

/-- The name of a column, empty when it has none. -/
def nameOf (column : Value) : Value := column.columnPart "name" (.text "")

/-- The warnings about names that came in before; `seen` holds those. -/
def repeatedNames (table : Value) (seen : List Value) : List Value → Except Fault (List String)
  | [] => pure []
  | column :: rest => do
    let name := nameOf column
    let known ← name.memberOf seen
    let others ← repeatedNames table (if known then seen else name :: seen) rest
    return if known then ("Duplicate column " ++ columnPlace table name) :: others else others

/-- The warnings that hold for every kind of source. -/
def contextWarnings (context : Context) : Except Fault (List String) := do
  let table := tableNameIn context
  let columns := columnsIn context
  let unnamed := if ← table.truth then [] else ["Context has no table name"]
  let bare := if ← columns.truth then []
    else ["Table '" ++ table.inMessage ++ "' has no columns"]
  return unnamed ++ bare ++ (← repeatedNames table [] (← columns.elements))

end Tablewright
