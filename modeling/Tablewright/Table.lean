import Tablewright.Naming
import Tablewright.Value.Order

/-! What is known of a database table, and the context that templates see of it. -/

namespace Tablewright

/-- The description of a table, each part as unchecked as it was handed in. -/
structure TableData where
  tableName : Value
  columns : Value := .list []
  packageName : Value := .text "models"
  imports : Value := .list []

/-- The context of a table: its parts, its imports as an ordered set, and its derived names. -/
def TableData.context (data : TableData) : Except Fault Context := do
  -- The parts are looked at in this order, so the first faulty one is the one that shows.
  let columns ← data.columns.elements
  let imports ← increasing (← distinct (← data.imports.elements))
  let structName ← Naming.typeNameOf data.tableName
  let varName ← Naming.variableNameOf data.tableName
  return [("table_name", data.tableName), ("columns", .list columns),
    ("package_name", data.packageName), ("imports", .list imports),
    ("struct_name", .text structName), ("var_name", .text varName)]

end Tablewright
