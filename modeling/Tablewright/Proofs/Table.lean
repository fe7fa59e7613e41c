import Tablewright.Proofs.Value.TextSet
import Tablewright.Table

/-! The context of a table whose names, types and imports are texts. -/

namespace Tablewright

/-- A column whose name and type are texts. -/
structure TextColumn where
  name : String
  type : String
  nullable : Value := .bool false

/-- The column as a value. -/
def TextColumn.value (column : TextColumn) : Value :=
  .column (.text column.name) (.text column.type) column.nullable

/-- A column in either form: as it is, or as a record, where what is left out is empty. -/
inductive TextColumn.GivenAs (column : TextColumn) : Value → Prop where
  | whole : column.GivenAs column.value
  | record {entries : List (String × Value)}
      (named : (lookup? "name" entries).getD (.text "") = .text column.name)
      (typed : (lookup? "type" entries).getD (.text "") = .text column.type) :
      column.GivenAs (.record entries)

section

variable {column : TextColumn} {value : Value} (given : column.GivenAs value)
include given

/-- The name of a column can be read in either form. -/
theorem TextColumn.GivenAs.columnPart_name :
    value.columnPart "name" (.text "") = .text column.name := by
  -- A column has the part, and a record has the entry.
  cases given with
  | whole => rfl
  | record named _ => exact named

/-- The type of a column can be read in either form. -/
theorem TextColumn.GivenAs.columnPart_type :
    value.columnPart "type" (.text "") = .text column.type := by
  -- A column has the part, and a record has the entry.
  cases given with
  | whole => rfl
  | record _ typed => exact typed

end

/-- What is made of each column stands at the place of the column. -/
theorem getElem?_map_columns (make : TextColumn → α) {columns : List TextColumn} {i : Nat}
    (inside : i < columns.length) : (columns.map make)[i]? = some (make columns[i]) := by
  rw [List.getElem?_map, List.getElem?_eq_getElem inside, Option.map_some]

/-- The description of a table from texts; only the package may be any value. -/
def TableData.ofTexts (table : String) (columns : List TextColumn) (package : Value)
    (imports : List String) : TableData :=
  ⟨.text table, .list (columns.map TextColumn.value), package, .list (imports.map .text)⟩

/-- What templates see of a table, its imports being in order already. -/
def textContext (table : String) (columns : List TextColumn) (package : Value)
    (paths : List String) : Context :=
  [("table_name", .text table), ("columns", .list (columns.map TextColumn.value)),
    ("package_name", package), ("imports", .list (paths.map .text)),
    ("struct_name", .text (Naming.typeName table)), ("var_name", .text (Naming.variableName table))]

/-- The context of a table from texts: nothing fails, and the imports become an ordered set. -/
theorem context_ofTexts (table : String) (columns : List TextColumn) (package : Value)
    (imports : List String) :
    ∃ paths, IncreasingSetOf paths imports ∧
      (TableData.ofTexts table columns package imports).context =
        .ok (textContext table columns package paths) := by
  -- Texts can be hashed, compared and made into names, so only the imports have to be told.
  obtain ⟨kept, paths, reduced, sorted, set⟩ := increasing_distinct_texts imports
  refine ⟨paths, set, ?_⟩
  simp [TableData.context, TableData.ofTexts, textContext, Value.elements, Naming.typeNameOf,
    Naming.variableNameOf, Value.asText, reduced, sorted, Bind.bind, Except.bind, Pure.pure,
    Except.pure]

/-- The context depends on the imports only as a set. -/
theorem context_ofTexts_congr (table : String) (columns : List TextColumn) (package : Value)
    {imports others : List String} (same : ∀ s, s ∈ imports ↔ s ∈ others) :
    (TableData.ofTexts table columns package imports).context =
      (TableData.ofTexts table columns package others).context := by
  -- An increasing list of distinct texts is told by its members.
  obtain ⟨paths, set, made⟩ := context_ofTexts table columns package imports
  obtain ⟨paths', set', made'⟩ := context_ofTexts table columns package others
  rw [made, made', set.unique set' same]

end Tablewright
