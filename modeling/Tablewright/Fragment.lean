import Tablewright.Naming
import Tablewright.Text.Basic

/-! Lists of columns, placeholders and aliases for statements, each in the order of the columns. -/

namespace Tablewright.Fragment

/-- The placeholders `$first`, and on from there, for `count` values. -/
def placeholdersFrom (first : Nat) : Nat → List String
  | 0 => []
  | count + 1 => ("$" ++ toString first) :: placeholdersFrom (first + 1) count

/-- Placeholders for `count` values, counted from one. -/
def placeholders (count : Nat) : String :=
  Text.joined Text.listSeparator (placeholdersFrom 1 count)

/-- The names of columns in a row. -/
def columnNames (names : List String) : String := Text.joined Text.listSeparator names

/-- A column under its tag. -/
def aliased (table column : String) : String := column ++ " AS " ++ Naming.tagName table column

/-- Columns under their tags in a row. -/
def aliasedColumns (table : String) (names : List String) : String :=
  Text.joined Text.listSeparator (names.map (aliased table))

/-- The names of columns in a row, for columns that are still unchecked. -/
def columnNamesOf (columns : Value) : Except Fault String := do
  -- Every column is asked for its name before the first name is looked at.
  let names ← (← columns.elements).mapM Value.columnName
  return columnNames (← joinedTexts 0 names)

/-- Placeholders for columns that are still unchecked. -/
def placeholdersOf (columns : Value) : Except Fault String := do
  return placeholders (← columns.elements).length

/-- A column under its tag, for values that are still unchecked. -/
def aliasedOf (table column : Value) : Except Fault String := do
  let name ← column.columnName
  let shown ← name.print
  return shown ++ " AS " ++ (← Naming.tagNameOf table name)

/-- Columns under their tags in a row, for values that are still unchecked. -/
def aliasedColumnsOf (table columns : Value) : Except Fault String := do
  return Text.joined Text.listSeparator (← (← columns.elements).mapM (aliasedOf table))

end Tablewright.Fragment
