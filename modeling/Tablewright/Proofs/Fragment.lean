import Tablewright.Fragment
import Tablewright.Proofs.Table
import Tablewright.Proofs.Template.Rendering
import Tablewright.Proofs.Text.Join

/-! Lists for statements, column by column: names, placeholders and aliases keep the same order. -/

namespace Tablewright.Fragment

/-- A column of a name, whatever its other parts are. -/
def IsNamed (column : Value) (name : String) : Prop :=
  ∃ type nullable, column = .column (.text name) type nullable

/-- Columns whose names are texts have these names. -/
theorem isNamed_columns (columns : List TextColumn) :
    List.Forall₂ IsNamed (columns.map TextColumn.value) (columns.map (·.name)) := by
  rw [List.forall₂_map_left_iff, List.forall₂_map_right_iff]
  exact List.forall₂_same.mpr fun column _ => ⟨_, _, rfl⟩

/-- A run along named columns that succeeds at each of them gives one result for each name. -/
theorem mapM_named {step : Value → Except Fault α} {result : String → α} {columns : List Value}
    {names : List String} (named : List.Forall₂ IsNamed columns names)
    (each : ∀ name type nullable, step (.column (.text name) type nullable) = .ok (result name)) :
    columns.mapM step = .ok (names.map result) := by
  -- The induction follows the columns and their names side by side.
  induction named with
  | nil => rfl
  | cons head _ ih =>
    obtain ⟨type, nullable, rfl⟩ := head
    simp [List.mapM_cons, each, ih, Bind.bind, Except.bind, Pure.pure, Except.pure]

/-- Placeholders count on from the first one. -/
theorem placeholdersFrom_eq_map (first count : Nat) :
    placeholdersFrom first count =
      (List.range' first count).map fun index => "$" ++ toString index := by
  -- Each step counts one placeholder and moves the first one on.
  induction count generalizing first with
  | zero => rfl
  | succ count ih => rw [placeholdersFrom, ih, List.range'_succ, List.map_cons]

/-- Placeholders are numbered from one, with the separator between them. -/
theorem placeholders_eq_intercalate (count : Nat) :
    placeholders count =
      ", ".intercalate ((List.range' 1 count).map fun index => "$" ++ toString index) := by
  rw [placeholders, Text.joined_eq_intercalate, placeholdersFrom_eq_map]
  rfl

/-- Texts can be joined, wherever they are counted from. -/
theorem joinedTexts_texts (texts : List String) (index : Nat) :
    joinedTexts index (texts.map .text) = .ok texts := by
  -- Where the counting begins matters for faults only, and texts make none.
  induction texts generalizing index with
  | nil => rfl
  | cons text rest ih =>
    simp [joinedTexts, Value.asJoined, ih, Bind.bind, Except.bind, Pure.pure, Except.pure]

/-- The column list holds the name of each column, verbatim and in order. -/
theorem columnNamesOf_named {columns : List Value} {names : List String}
    (named : List.Forall₂ IsNamed columns names) :
    columnNamesOf (.list columns) = .ok (", ".intercalate names) := by
  -- Every column has a name, and every name is a text.
  have read : columns.mapM Value.columnName = .ok (names.map .text) :=
    mapM_named named fun _ _ _ => rfl
  simp only [columnNamesOf, Value.elements, read, joinedTexts_texts, columnNames,
    Text.joined_eq_intercalate, Bind.bind, Except.bind, Pure.pure, Except.pure]
  rfl

/-- The column list of columns made of texts holds their names. -/
theorem columnNamesOf_columns (columns : List TextColumn) :
    columnNamesOf (.list (columns.map TextColumn.value)) =
      .ok (", ".intercalate (columns.map (·.name))) :=
  columnNamesOf_named (isNamed_columns columns)

/-- Placeholders are told by how many columns there are, and by nothing in them. -/
theorem placeholdersOf_list (columns : List Value) :
    placeholdersOf (.list columns) =
      .ok (", ".intercalate
        ((List.range' 1 columns.length).map fun index => "$" ++ toString index)) := by
  simp only [placeholdersOf, Value.elements, placeholders_eq_intercalate, Bind.bind, Except.bind,
    Pure.pure, Except.pure]

/-- There are as many placeholders as columns. -/
theorem placeholdersOf_columns (columns : List TextColumn) :
    placeholdersOf (.list (columns.map TextColumn.value)) =
      .ok (", ".intercalate
        ((List.range' 1 columns.length).map fun index => "$" ++ toString index)) := by
  rw [placeholdersOf_list, List.length_map]

/-- Equally many columns have the same placeholders. -/
theorem placeholdersOf_of_length_eq {columns columns' : List Value}
    (same : columns.length = columns'.length) :
    placeholdersOf (.list columns') = placeholdersOf (.list columns) := by
  rw [placeholdersOf_list, placeholdersOf_list, same]

/-- A tag is the names of the table and the column with an underscore between them. -/
theorem tagName_eq (table column : String) :
    Naming.tagName table column = table ++ "_" ++ column := rfl

/-- The aliased list holds each column under its tag, verbatim and in order. -/
theorem aliasedColumnsOf_named (table : String) {columns : List Value} {names : List String}
    (named : List.Forall₂ IsNamed columns names) :
    aliasedColumnsOf (.text table) (.list columns) =
      .ok (", ".intercalate (names.map (aliased table))) := by
  -- Every column is printed in front of its tag, which is made of texts alone.
  have each : columns.mapM (aliasedOf (.text table)) = .ok (names.map (aliased table)) := by
    refine mapM_named named fun name type nullable => ?_
    simp [aliasedOf, Value.columnName, Value.print, Naming.tagNameOf, Value.followedBy, appendText,
      aliased, Naming.tagName, Bind.bind, Except.bind, Pure.pure, Except.pure]
  simp only [aliasedColumnsOf, Value.elements, each, Text.joined_eq_intercalate, Bind.bind,
    Except.bind, Pure.pure, Except.pure]
  rfl

/-- The aliased list of columns made of texts holds their names under their tags. -/
theorem aliasedColumnsOf_columns (table : String) (columns : List TextColumn) :
    aliasedColumnsOf (.text table) (.list (columns.map TextColumn.value)) =
      .ok (", ".intercalate (columns.map fun column => aliased table column.name)) := by
  rw [aliasedColumnsOf_named table (isNamed_columns columns), List.map_map]
  rfl

end Tablewright.Fragment
