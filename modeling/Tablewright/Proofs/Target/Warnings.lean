import Mathlib.Data.List.Nodup
import Tablewright.Proofs.Generation.Warnings
import Tablewright.Proofs.Value.Entries
import Tablewright.Target.Warnings

/-! When nothing is said of a table of texts: exactly when its derived names can be used. -/

namespace Tablewright.Target

/-- The columns that own fields, once a further column took its field unless it has an owner. -/
def ownersWith (owners : List (String × String)) (column : TextColumn) : List (String × String) :=
  if (lookup? (Naming.typeName column.name) owners).isSome then owners
  else (Naming.typeName column.name, column.name) :: owners

/-- The field of a column has no owner of another name. -/
def Unclaimed (owners : List (String × String)) (column : TextColumn) : Prop :=
  ∀ owner, lookup? (Naming.typeName column.name) owners = some owner → owner = column.name

/-- What is said of a name that is derived for a table or for a column. -/
def saidOfName (owner name : String) : List String :=
  (nameProblems name).map fun problem => owner ++ ": " ++ problem.message

/-- What is said of the variable of a table: what is wrong with its name, and that generated code
uses that name itself. -/
def saidOfVariable (table name : String) : List String :=
  saidOfName ("Table " ++ table) name ++
    if name ∈ templateLocals then ["Table " ++ table ++ ": variable '" ++ name ++
      "' clashes with a name used by the generated code"] else []

/-- What is said of a column whose field has an owner: that it is another column. -/
def saidOfField (table : String) (column : TextColumn) : Option String → List String
  | none => []
  | some owner =>
    if owner = column.name then []
    else ["Columns " ++ (table ++ "." ++ owner) ++ " and " ++ (table ++ "." ++ column.name) ++
      " both map to field " ++ Naming.typeName column.name]

/-- What is said of a column: of its field's name, of the owner of its field, of its type. -/
def saidOfColumn (table : String) (column : TextColumn) (owner : Option String) : List String :=
  saidOfName ("Column " ++ (table ++ "." ++ column.name)) (Naming.typeName column.name) ++
    saidOfField table column owner ++
    if column.type = "" then ["Column " ++ (table ++ "." ++ column.name) ++ " has no Go type"]
    else []

/-- Nothing is said of a name that can be used. -/
theorem saidOfName_eq_nil_iff {owner name : String} :
    saidOfName owner name = [] ↔ nameProblems name = [] :=
  List.map_eq_nil_iff

/-- Nothing is said of a variable that can be used and is none of the generated code's own. -/
theorem saidOfVariable_eq_nil_iff {table name : String} :
    saidOfVariable table name = [] ↔ nameProblems name = [] ∧ name ∉ templateLocals := by
  rw [saidOfVariable, List.append_eq_nil_iff, saidOfName_eq_nil_iff]
  by_cases clash : name ∈ templateLocals <;> simp [clash]

/-- Nothing is said of a column that can be used and whose field no other name owns. -/
theorem saidOfColumn_eq_nil_iff {table : String} {owners : List (String × String)}
    {column : TextColumn} :
    saidOfColumn table column (lookup? (Naming.typeName column.name) owners) = [] ↔
      column.type ≠ "" ∧ nameProblems (Naming.typeName column.name) = [] ∧
        Unclaimed owners column := by
  -- A field without an owner clashes with nothing, and an owned one with every other name.
  have field : saidOfField table column (lookup? (Naming.typeName column.name) owners) = [] ↔
      Unclaimed owners column := by
    rw [Unclaimed]
    cases lookup? (Naming.typeName column.name) owners <;> simp [saidOfField]
  rw [saidOfColumn, List.append_eq_nil_iff, List.append_eq_nil_iff, saidOfName_eq_nil_iff, field]
  by_cases untyped : column.type = "" <;> simp [untyped]

/-- A name of the table itself is told what is wrong with it. -/
theorem tableProblems_text (table name : String) :
    tableProblems (.text table) (.text name) = .ok (saidOfName ("Table " ++ table) name) := by
  -- A name that is empty is told on its own, and any other by its problems.
  have called : (Value.text table).inMessage = table := rfl
  by_cases empty : name = "" <;>
    simp [tableProblems, nameProblemsOf, nameProblems, saidOfName, Value.truth, Value.asText, empty,
      called, Bind.bind, Except.bind, Pure.pure, Except.pure]

/-- A variable is told what is wrong with it, and then that the generated code uses its name. -/
theorem variableWarnings_text (table name : String) :
    variableWarnings (.text table) (some (.text name)) = .ok (saidOfVariable table name) := by
  -- What is wrong with the name comes first, whether it clashes or not.
  have called : ∀ s, (Value.text s).inMessage = s := fun _ => rfl
  by_cases clash : name ∈ templateLocals <;>
    simp [variableWarnings, tableProblems_text, saidOfVariable, localClash, memberOf_texts, clash,
      called, Bind.bind, Except.bind, Pure.pure, Except.pure]

section

variable {column : TextColumn} {value : Value} (given : column.GivenAs value) (table : String)
include given

/-- A column without a type is told. -/
theorem typeWarning_given :
    typeWarning (.text table) (.text column.name) value =
      .ok (if column.type = "" then
        ["Column " ++ columnPlace (.text table) (.text column.name) ++ " has no Go type"]
        else []) := by
  -- The type is read in either form, and is told when it is empty.
  have typed := given.columnPart_type
  by_cases untyped : column.type = "" <;>
    simp [typeWarning, typed, Value.truth, untyped, Bind.bind, Except.bind, Pure.pure, Except.pure]

/-- A column is judged by its own names and by the owner of its field, then the next one is. -/
theorem columnWarnings_cons (owners : List (String × String)) (rest : List Value) :
    columnWarnings (.text table) (owners.map (Prod.map id .text)) (value :: rest) =
      (columnWarnings (.text table) ((ownersWith owners column).map (Prod.map id .text)) rest).map
        (saidOfColumn table column (lookup? (Naming.typeName column.name) owners) ++ ·) := by
  -- The names of the column are texts, so nothing that is derived from them fails.
  have called : nameOf value = .text column.name := given.columnPart_name
  -- The owners that the next column meets are those met here, with this one where it is new.
  have kept : (if ((lookup? (Naming.typeName column.name) owners).map Value.text).isSome then
        owners.map (Prod.map id Value.text)
      else (Naming.typeName column.name, .text column.name) ::
        owners.map (Prod.map id Value.text)) =
      (ownersWith owners column).map (Prod.map id .text) := by
    rw [Option.isSome_map, ownersWith]
    split <;> rfl
  have field : fieldClash (.text table) (.text column.name) (Naming.typeName column.name)
      ((lookup? (Naming.typeName column.name) owners).map .text) =
        saidOfField table column (lookup? (Naming.typeName column.name) owners) := by
    cases lookup? (Naming.typeName column.name) owners with
    | none => rfl
    | some owner =>
      simp only [Option.map_some, fieldClash, saidOfField, same_text, decide_eq_true_eq]
      rfl
  -- What is said of the rest is appended, whether it fails or not.
  simp only [columnWarnings, called, Naming.typeNameOf, Value.asText, typeWarning_given given, kept,
    lookup?_map, field, Bind.bind, Except.bind, Pure.pure, Except.pure]
  cases columnWarnings (.text table) ((ownersWith owners column).map (Prod.map id .text)) rest <;>
    rfl

end

/-- Once a column took its field, that field is left to columns of the same name. -/
theorem unclaimed_ownersWith {owners : List (String × String)} {column : TextColumn}
    (own : Unclaimed owners column) (other : TextColumn) :
    Unclaimed (ownersWith owners column) other ↔
      Unclaimed owners other ∧
        (Naming.typeName column.name = Naming.typeName other.name → column.name = other.name) := by
  -- Whether the field had an owner decides who owns it from here on.
  unfold Unclaimed ownersWith
  cases owned : lookup? (Naming.typeName column.name) owners with
  | some owner =>
    -- The field has an owner of the same name already, so nothing is added.
    have same : owner = column.name := own owner owned
    simp only [Option.isSome_some, if_true]
    refine ⟨fun free => ⟨free, fun alike => ?_⟩, fun free => free.1⟩
    rw [← same]
    exact free owner (alike ▸ owned)
  | none =>
    -- The column becomes the owner, which only matters to columns of the same field.
    simp only [Option.isSome_none, Bool.false_eq_true, if_false, lookup?]
    by_cases alike : Naming.typeName column.name = Naming.typeName other.name
    · rw [← alike, owned]
      simp
    · simp [alike]

/-- Nothing is said of columns when each can be used and equal fields come from equal names. -/
theorem columnWarnings_columns (table : String) (columns : List TextColumn)
    (owners : List (String × String)) :
    ∃ said, columnWarnings (.text table) (owners.map (Prod.map id .text))
        (columns.map TextColumn.value) = .ok said ∧
      (said = [] ↔
        (∀ column ∈ columns, column.type ≠ "" ∧
          nameProblems (Naming.typeName column.name) = [] ∧ Unclaimed owners column) ∧
        ∀ column ∈ columns, ∀ other ∈ columns,
          Naming.typeName column.name = Naming.typeName other.name →
            column.name = other.name) := by
  -- The owners are the first columns of the fields passed so far.
  induction columns generalizing owners with
  | nil => exact ⟨[], rfl, by simp⟩
  | cons column rest ih =>
    obtain ⟨others, made, silent⟩ := ih (ownersWith owners column)
    rw [List.map_cons, columnWarnings_cons .whole, made]
    refine ⟨_, rfl, ?_⟩
    rw [List.append_eq_nil_iff, saidOfColumn_eq_nil_iff, silent]
    constructor
    · rintro ⟨⟨typed, fit, own⟩, later, alike⟩
      -- What later columns find free among all owners is free here, and apart from this column.
      have free : ∀ other ∈ rest, Unclaimed owners other ∧
          (Naming.typeName column.name = Naming.typeName other.name →
            column.name = other.name) :=
        fun other member => (unclaimed_ownersWith own other).mp (later other member).2.2
      refine ⟨fun other member => ?_, fun first member second member' same => ?_⟩
      · -- This column and the later ones are each judged by themselves.
        rcases List.mem_cons.mp member with rfl | inside
        · exact ⟨typed, fit, own⟩
        · exact ⟨(later other inside).1, (later other inside).2.1, (free other inside).1⟩
      · -- Two columns of one field are this one twice, this one and a later one, or two later ones.
        rcases List.mem_cons.mp member with rfl | inside <;>
          rcases List.mem_cons.mp member' with rfl | inside'
        · rfl
        · exact (free second inside').2 same
        · exact ((free first inside).2 same.symm).symm
        · exact alike first inside second inside' same
    · rintro ⟨all, alike⟩
      -- A later column stays free once this one took its field, as their names are told apart.
      obtain ⟨typed, fit, own⟩ := all column (by simp)
      refine ⟨⟨typed, fit, own⟩, fun other inside => ?_, fun first inside second inside' =>
        alike first (by simp [inside]) second (by simp [inside'])⟩
      obtain ⟨typed', fit', free⟩ := all other (by simp [inside])
      exact ⟨typed', fit', (unclaimed_ownersWith own other).mpr
        ⟨free, alike column (by simp) other (by simp [inside])⟩⟩

/-- Names and fields without a conflict: fields differ when names do and none of them is shared. -/
theorem nodup_fields_iff (columns : List TextColumn) :
    (columns.map fun column => Naming.typeName column.name).Nodup ↔
      (columns.map (·.name)).Nodup ∧
        ∀ column ∈ columns, ∀ other ∈ columns,
          Naming.typeName column.name = Naming.typeName other.name →
            column.name = other.name := by
  -- Fields are derived from names, column by column.
  have derived : (columns.map fun column => Naming.typeName column.name) =
      (columns.map (·.name)).map Naming.typeName := by
    rw [List.map_map]
    rfl
  rw [derived]
  constructor
  · intro fields
    -- Equal names would give equal fields, so fields that all differ come from different names.
    have names := List.Nodup.of_map Naming.typeName fields
    refine ⟨names, fun column member other member' => ?_⟩
    exact (List.nodup_map_iff_inj_on names).mp fields _ (List.mem_map_of_mem member) _
      (List.mem_map_of_mem member')
  · rintro ⟨names, apart⟩
    -- Fields are told apart by the names they come from.
    apply (List.nodup_map_iff_inj_on names).mpr
    intro name member name' member' same
    obtain ⟨column, inside, rfl⟩ := List.mem_map.mp member
    obtain ⟨other, inside', rfl⟩ := List.mem_map.mp member'
    exact apart column inside other inside' same

/-- All that generated source needs of a table: columns with types, and names that can be used. -/
structure Usable (table : String) (columns : List TextColumn) : Prop where
  filled : columns ≠ []
  typed : ∀ column ∈ columns, column.type ≠ ""
  typeFit : nameProblems (Naming.typeName table) = []
  variableFit : nameProblems (Naming.variableName table) = []
  unshared : Naming.variableName table ∉ templateLocals
  fieldsFit : ∀ column ∈ columns, nameProblems (Naming.typeName column.name) = []
  fieldsApart : (columns.map fun column => Naming.typeName column.name).Nodup

/-- A table without a name is not usable, since no type name can be derived from it. -/
theorem Usable.named {table : String} {columns : List TextColumn}
    (usable : Usable table columns) : table ≠ "" := by
  rintro rfl
  exact absurd usable.typeFit (by decide)

/-- Nothing is said of the values of a table exactly when the table is usable. -/
theorem warnings_textContext (table : String) (columns : List TextColumn) (package : Value)
    (paths : List String) :
    ∃ said, warnings (textContext table columns package paths) = .ok said ∧
      (said = [] ↔ Usable table columns) := by
  -- Each of the four parts is silent under its own condition.
  obtain ⟨general, generalMade, generalSilent⟩ :=
    contextWarnings_textContext table columns package paths
  obtain ⟨ofColumns, columnsMade, columnsSilent⟩ := columnWarnings_columns table columns []
  rw [List.map_nil] at columnsMade
  have tabled : tableNameIn (textContext table columns package paths) = .text table := rfl
  have listed : columnsIn (textContext table columns package paths) =
      .list (columns.map TextColumn.value) := rfl
  have structured : lookup? "struct_name" (textContext table columns package paths) =
      some (.text (Naming.typeName table)) := rfl
  have given : lookup? "var_name" (textContext table columns package paths) =
      some (.text (Naming.variableName table)) := rfl
  -- No part fails among texts, so the warnings are the parts in a row.
  simp only [warnings, generalMade, tabled, listed, structured, given, variableWarnings_text,
    columnsMade, tableProblems_text, Naming.typeNameOf, Value.asText, Value.elements,
    Option.getD_some, Bind.bind, Except.bind, Pure.pure, Except.pure]
  refine ⟨_, rfl, ?_⟩
  rw [List.append_eq_nil_iff, List.append_eq_nil_iff, List.append_eq_nil_iff, generalSilent,
    saidOfName_eq_nil_iff, saidOfVariable_eq_nil_iff, columnsSilent]
  -- At the start no field has an owner, so columns can only clash with each other.
  have free : ∀ column, Unclaimed [] column := by
    intro column owner owned
    simp [lookup?] at owned
  constructor
  · rintro ⟨⟨⟨⟨-, filled, names⟩, typeFit⟩, variableFit, unshared⟩, each, apart⟩
    exact ⟨filled, fun column member => (each column member).1, typeFit, variableFit, unshared,
      fun column member => (each column member).2.1, (nodup_fields_iff columns).mpr ⟨names, apart⟩⟩
  · intro usable
    obtain ⟨names, apart⟩ := (nodup_fields_iff columns).mp usable.fieldsApart
    exact ⟨⟨⟨⟨usable.named, usable.filled, names⟩, usable.typeFit⟩, usable.variableFit,
        usable.unshared⟩,
      fun column member => ⟨usable.typed column member, usable.fieldsFit column member,
        free column⟩, apart⟩

/-- Nothing is said of a table of texts exactly when it is usable, whatever its other parts are. -/
theorem silent_iff_usable {table : String} {columns : List TextColumn} {package : Value}
    {imports : List String} :
    ((TableData.ofTexts table columns package imports).context >>= warnings) = .ok [] ↔
      Usable table columns := by
  -- The context of a table of texts is made, and its warnings are known.
  obtain ⟨paths, -, described⟩ := context_ofTexts table columns package imports
  obtain ⟨said, made, silent⟩ := warnings_textContext table columns package paths
  have whole : ((TableData.ofTexts table columns package imports).context >>= warnings) =
      .ok said := by
    rw [described]
    exact made
  rw [whole, Except.ok.injEq]
  exact silent

/-- Nothing is said of a table of texts exactly when all names derived from it can be used. -/
theorem warnings_ofTexts_eq_nil_iff (table : String) (columns : List TextColumn) (package : Value)
    (imports : List String) :
    ∃ said,
      ((TableData.ofTexts table columns package imports).context >>= warnings) = .ok said ∧
      (said = [] ↔
        columns ≠ [] ∧ (∀ column ∈ columns, column.type ≠ "") ∧
        nameProblems (Naming.typeName table) = [] ∧
        nameProblems (Naming.variableName table) = [] ∧
        Naming.variableName table ∉ ["db", "err", "errors", "sql"] ∧
        (∀ column ∈ columns, nameProblems (Naming.typeName column.name) = []) ∧
        (columns.map fun column => Naming.typeName column.name).Nodup) := by
  -- To be usable is to meet these conditions one by one.
  obtain ⟨paths, -, described⟩ := context_ofTexts table columns package imports
  obtain ⟨said, made, silent⟩ := warnings_textContext table columns package paths
  refine ⟨said, ?_, ?_⟩
  · rw [described]
    exact made
  · rw [silent]
    constructor
    · intro usable
      exact ⟨usable.filled, usable.typed, usable.typeFit, usable.variableFit, usable.unshared,
        usable.fieldsFit, usable.fieldsApart⟩
    · rintro ⟨filled, typed, typeFit, variableFit, unshared, fieldsFit, fieldsApart⟩
      exact ⟨filled, typed, typeFit, variableFit, unshared, fieldsFit, fieldsApart⟩

end Tablewright.Target
