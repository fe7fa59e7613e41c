import Mathlib.Data.List.Forall2
import Tablewright.Generation.Generator
import Tablewright.Proofs.Target.Warnings

/-! The warnings of a table of texts, one by one and in order, told by positions of its columns. -/

namespace Tablewright

/-- What is said of a column at a position: that one at an earlier position has its name. -/
def saidOfPosition (table : String) (columns : List TextColumn) (column : TextColumn) (j : Nat) :
    List String :=
  if ∃ i < j, columns[i]?.map TextColumn.name = some column.name then
    ["Duplicate column " ++ (table ++ "." ++ column.name)]
  else []

/-- Behind some columns, a name repeats an earlier one exactly when one of these columns has it. -/
theorem exists_earlier_iff (done : List TextColumn) (column : TextColumn) (rest : List TextColumn) :
    (∃ i < done.length, (done ++ column :: rest)[i]?.map TextColumn.name = some column.name) ↔
      column.name ∈ done.map TextColumn.name := by
  -- Positions in front of the column are those of the columns that are passed.
  rw [List.mem_map]
  constructor
  · -- An earlier position is one of a column that is passed.
    rintro ⟨i, inside, same⟩
    rw [List.getElem?_append_left inside, Option.map_eq_some_iff] at same
    obtain ⟨earlier, found, same⟩ := same
    exact ⟨earlier, List.mem_of_getElem? found, same⟩
  · -- A column that is passed has a position in front.
    rintro ⟨earlier, member, same⟩
    obtain ⟨i, inside, found⟩ := List.mem_iff_getElem.mp member
    refine ⟨i, inside, ?_⟩
    rw [List.getElem?_append_left inside, List.getElem?_eq_getElem inside, found, Option.map_some,
      same]

/-- Passing a further column adds its name to those passed. -/
theorem mem_names_concat {done : List TextColumn} {column : TextColumn} {name : String} :
    name ∈ (done ++ [column]).map TextColumn.name ↔
      name ∈ done.map TextColumn.name ∨ name = column.name := by
  simp

/-- Names are told as repeated by their positions, when those seen before are the names passed. -/
theorem repeatedNames_given {rest : List TextColumn} {values : List Value}
    (given : List.Forall₂ TextColumn.GivenAs rest values) (table : String) (done : List TextColumn)
    (seen : List String) (passed : ∀ name, name ∈ seen ↔ name ∈ done.map TextColumn.name) :
    repeatedNames (.text table) (seen.map .text) values =
      .ok ((rest.zipIdx done.length).flatMap fun entry =>
        saidOfPosition table (done ++ rest) entry.1 entry.2) := by
  -- By induction over the columns still to come; those passed grow by one in each step.
  induction given generalizing done seen with
  | nil => rfl
  | @cons column value rest values first _ ih =>
    have regrouped : done ++ column :: rest = (done ++ [column]) ++ rest := by simp
    have place : done.length + 1 = (done ++ [column]).length := by simp
    have earlier := exists_earlier_iff done column rest
    rw [List.zipIdx_cons, List.flatMap_cons, saidOfPosition]
    by_cases known : column.name ∈ seen
    · -- The name is told, and passing it again adds no name.
      have before := (passed _).mp known
      rw [repeatedNames_of_mem first known, if_pos (earlier.mpr before), regrouped, place,
        ih (done ++ [column]) seen]
      · rfl
      · intro name
        rw [passed, mem_names_concat]
        exact ⟨.inl, fun either => either.elim id fun same => same ▸ before⟩
    · -- The name is new, so nothing is told, and it is one of those seen from here on.
      have fresh := fun found => known ((passed _).mpr (earlier.mp found))
      rw [repeatedNames_of_not_mem first known, if_neg fresh, regrouped, place,
        ih (done ++ [column]) (column.name :: seen)]
      · rfl
      · intro name
        rw [List.mem_cons, passed, mem_names_concat, or_comm]

/-- What is said of a table of texts for every kind of source: a missing name, missing columns, and
names that repeat earlier ones. -/
theorem contextWarnings_given {context : Context} {table : String} {columns : List TextColumn}
    {values : List Value} (tabled : lookup? "table_name" context = some (.text table))
    (listed : lookup? "columns" context = some (.list values))
    (given : List.Forall₂ TextColumn.GivenAs columns values) :
    contextWarnings context = .ok (
      (if table = "" then ["Context has no table name"] else []) ++
      (if columns.isEmpty then ["Table '" ++ table ++ "' has no columns"] else []) ++
      columns.zipIdx.flatMap fun entry => saidOfPosition table columns entry.1 entry.2) := by
  -- Each part is computed by itself, and no part can fail among texts.
  have named : tableNameIn context = .text table := by rw [tableNameIn, tabled, Option.getD_some]
  have all : columnsIn context = .list values := by rw [columnsIn, listed, Option.getD_some]
  have repeated : repeatedNames (.text table) [] values =
      .ok (columns.zipIdx.flatMap fun entry => saidOfPosition table columns entry.1 entry.2) :=
    repeatedNames_given given table [] [] (by simp)
  have unnamed : (Value.text table).truth = .ok (table != "") := rfl
  have bare : (Value.list values).truth = .ok (!columns.isEmpty) := by cases given <;> rfl
  have called : (Value.text table).inMessage = table := rfl
  simp only [contextWarnings, named, all, unnamed, bare, called, repeated, Value.elements,
    Bind.bind, Except.bind, Pure.pure, Except.pure]
  simp

namespace Target

/-- The first column whose name gives a field. -/
def firstOf? (columns : List TextColumn) (field : String) : Option TextColumn :=
  columns.find? fun column => Naming.typeName column.name = field

/-- The owners of fields are the first columns that give them. -/
def OwnedByFirst (owners : List (String × String)) (columns : List TextColumn) : Prop :=
  ∀ field, lookup? field owners = (firstOf? columns field).map TextColumn.name

/-- A further column takes its field when it is the first to give it. -/
theorem OwnedByFirst.concat {owners : List (String × String)} {done : List TextColumn}
    (owned : OwnedByFirst owners done) (column : TextColumn) :
    OwnedByFirst (ownersWith owners column) (done ++ [column]) := by
  -- The first column of a field is one of those passed, or else the further one.
  intro field
  have first : firstOf? (done ++ [column]) field =
      (firstOf? done field).or (firstOf? [column] field) := List.find?_append
  have own := owned (Naming.typeName column.name)
  rw [first, ownersWith, own]
  by_cases gives : Naming.typeName column.name = field
  · subst gives
    cases before : firstOf? done (Naming.typeName column.name) with
    | none => simp [firstOf?, lookup?]
    | some owner => simp [own, before]
  · -- The owner of another field is left as it is.
    have none : firstOf? [column] field = none := by simp [firstOf?, gives]
    rw [none, Option.or_none, ← owned field]
    split
    · rfl
    · rw [lookup?, if_neg gives]

/-- What is said of a column among others: the owner of its field is the first one that gives it. -/
def saidAmong (table : String) (columns : List TextColumn) (column : TextColumn) : List String :=
  saidOfColumn table column
    ((firstOf? columns (Naming.typeName column.name)).map TextColumn.name)

/-- A column that is not owned yet is said to be its own first one, which says nothing of it. -/
theorem saidOfColumn_of_owned {owners : List (String × String)} {done : List TextColumn}
    (owned : OwnedByFirst owners done) (table : String) (column : TextColumn)
    (rest : List TextColumn) :
    saidOfColumn table column (lookup? (Naming.typeName column.name) owners) =
      saidAmong table (done ++ column :: rest) column := by
  -- The first column of the field is one of those passed, or this one.
  have first : firstOf? (done ++ column :: rest) (Naming.typeName column.name) =
      (firstOf? done (Naming.typeName column.name)).or (some column) := by
    rw [firstOf?, List.find?_append, List.find?_cons_of_pos (by simp)]
    rfl
  rw [saidAmong, first, owned]
  -- Without an owner so far, the column is the first one itself, which clashes with nothing.
  cases firstOf? done (Naming.typeName column.name) with
  | none => simp [saidOfColumn, saidOfField]
  | some owner => rfl

/-- Columns are told by themselves and beside the first of their field, when fields passed are
owned by the first columns that gave them. -/
theorem columnWarnings_given {rest : List TextColumn} {values : List Value}
    (given : List.Forall₂ TextColumn.GivenAs rest values) (table : String) (done : List TextColumn)
    {owners : List (String × String)} (owned : OwnedByFirst owners done) :
    columnWarnings (.text table) (owners.map (Prod.map id .text)) values =
      .ok (rest.flatMap (saidAmong table (done ++ rest))) := by
  -- By induction over the columns still to come; each takes its field when it is the first one.
  induction given generalizing done owners with
  | nil => rfl
  | @cons column value rest values first _ ih =>
    have regrouped : done ++ column :: rest = (done ++ [column]) ++ rest := by simp
    -- What is said of this column is what its first owner gives reason for.
    rw [columnWarnings_cons first, saidOfColumn_of_owned owned table column rest,
      ih (done ++ [column]) (owned.concat column), ← regrouped, List.flatMap_cons]
    rfl

/-- What is said of the variable that a context may have. -/
def saidOfGivenVariable (table : String) : Option String → List String
  | none => []
  | some name => saidOfVariable table name

/-- The warnings of a table of texts are these and no others, in this order: a missing name, missing
columns, names that repeat earlier ones, the struct, the variable, and then column after column. -/
theorem warnings_of_texts {subject : Subject} {context : Context} {table : String}
    {columns : List TextColumn} {values : List Value} {structName varName : Option String}
    (shown : subject.context = .ok context)
    (tabled : lookup? "table_name" context = some (.text table))
    (listed : lookup? "columns" context = some (.list values))
    (given : List.Forall₂ TextColumn.GivenAs columns values)
    (structured : lookup? "struct_name" context = structName.map .text)
    (varied : lookup? "var_name" context = varName.map .text) :
    (subject.context >>= warnings) = .ok (
      (if table = "" then ["Context has no table name"] else []) ++
      (if columns.isEmpty then ["Table '" ++ table ++ "' has no columns"] else []) ++
      (columns.zipIdx.flatMap fun entry => saidOfPosition table columns entry.1 entry.2) ++
      saidOfName ("Table " ++ table) (structName.getD (Naming.typeName table)) ++
      saidOfGivenVariable table varName ++
      columns.flatMap (saidAmong table columns)) := by
  -- The parts of the list are computed one by one, each from its own lookups.
  have named : tableNameIn context = .text table := by rw [tableNameIn, tabled, Option.getD_some]
  have all : columnsIn context = .list values := by rw [columnsIn, listed, Option.getD_some]
  have general := contextWarnings_given tabled listed given
  have unowned : OwnedByFirst [] [] := fun _ => rfl
  have ofColumns : columnWarnings (.text table) [] values =
      .ok (columns.flatMap (saidAmong table columns)) := columnWarnings_given given table [] unowned
  have ofVariable : variableWarnings (.text table) (varName.map .text) =
      .ok (saidOfGivenVariable table varName) := by
    cases varName with
    | none => rfl
    | some name => exact variableWarnings_text table name
  have struct : (structName.map Value.text).getD (.text (Naming.typeName table)) =
      .text (structName.getD (Naming.typeName table)) := by
    cases structName <;> rfl
  -- Each part of the list is known by now, and no part can fail, so they stand in a row.
  rw [shown]
  simp only [warnings, general, named, all, structured, varied, struct, ofVariable, ofColumns,
    tableProblems_text, Naming.typeNameOf, Value.asText, Value.elements, Bind.bind, Except.bind,
    Pure.pure, Except.pure]

/-- A repeated column, a column whose field is taken and that has no type, and a variable that the
generated code uses. -/
theorem warnings_of_texts_clashing :
    (Subject.context (.values [("table_name", .text "t"), ("var_name", .text "db"),
      ("columns", .list [.column (.text "id") (.text "int") (.bool false),
        .record [("name", .text "i_d")],
        .column (.text "id") (.text "int") (.bool false)])]) >>= warnings) = .ok
      ["Duplicate column t.id",
        "Table t: variable 'db' clashes with a name used by the generated code",
        "Columns t.id and t.i_d both map to field ID", "Column t.i_d has no Go type"] := by
  -- What the warnings say is computed from the general list.
  have given : List.Forall₂ TextColumn.GivenAs [⟨"id", "int", .bool false⟩, ⟨"i_d", "", .null⟩,
      ⟨"id", "int", .bool false⟩] [.column (.text "id") (.text "int") (.bool false),
        .record [("name", .text "i_d")], .column (.text "id") (.text "int") (.bool false)] :=
    .cons .whole (.cons (.record rfl rfl) (.cons .whole .nil))
  rw [@warnings_of_texts _ _ _ _ _ none (some "db") rfl rfl rfl given rfl rfl]
  exact congrArg Except.ok (by decide +kernel)

end Target

end Tablewright
