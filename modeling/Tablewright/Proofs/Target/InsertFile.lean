import Tablewright.Proofs.Target.BuiltIn
import Tablewright.Proofs.Target.Expressions

/-! The generated file that adds a row: its columns, placeholders and arguments line up. -/

namespace Tablewright.Target

open Template TableGenerator

/-- The file that adds a row, with the lists of its statement and the arguments below it. -/
def insertFile (package struct holder table : String) (names flags arguments : List String) :
    String :=
  sourceOf <|
    ["// Code generated by boilergen. DO NOT EDIT.", "", "package " ++ package, "", "import (",
      "    \"database/sql\"", "    \"errors\"", ")", "",
      "// Insert" ++ struct ++ " inserts a single row into the " ++ table ++ " table.",
      "func Insert" ++ struct ++ "(db *sql.DB, " ++ holder ++ " *" ++ struct ++ ") error \x7b",
      "    if " ++ holder ++ " == nil \x7b",
      "        return errors.New(\"" ++ package ++ ": no " ++ struct ++
        " provided for insertion\")",
      "    \x7d", "",
      "    _, err := db.Exec(`INSERT INTO " ++ table ++ " (" ++ ", ".intercalate names ++
        ") VALUES (" ++ ", ".intercalate flags ++ ")`,"] ++
    arguments.map (fun argument => "        " ++ argument ++ ",") ++
    ["    )", "    return err", "\x7d"]

/-- The file that adds a row, spelled out without lines. -/
theorem insertFile_eq_text (package struct holder table : String)
    (names flags arguments : List String) :
    insertFile package struct holder table names flags arguments =
      "// Code generated by boilergen. DO NOT EDIT.\n\npackage " ++ package ++
      "\n\nimport (\n    \"database/sql\"\n    \"errors\"\n)\n\n// Insert" ++ struct ++
      " inserts a single row into the " ++ table ++ " table.\nfunc Insert" ++ struct ++
      "(db *sql.DB, " ++ holder ++ " *" ++ struct ++ ") error \x7b\n    if " ++ holder ++
      " == nil \x7b\n        return errors.New(\"" ++ package ++ ": no " ++ struct ++
      " provided for insertion\")\n    \x7d\n\n    _, err := db.Exec(`INSERT INTO " ++ table ++
      " (" ++ ", ".intercalate names ++ ") VALUES (" ++ ", ".intercalate flags ++ ")`,\n" ++
      String.join (arguments.map fun argument => "        " ++ argument ++ ",\n") ++
      "    )\n    return err\n\x7d\n" := by
  simp only [insertFile, sourceOf, List.map_append, List.map_cons, List.map_nil, List.cons_append,
    List.nil_append, String.join_append, String.join_cons, String.join_nil, List.map_map,
    Function.comp_def]
  -- Texts grouped to the left first are put together where they meet when grouped to the right.
  simp only [← String.append_assoc]
  simp only [String.append_assoc, String.reduceAppend]

/-- The field of a held value that a column is taken from. -/
def fieldOf (holder : String) (column : TextColumn) : String :=
  holder ++ "." ++ Naming.typeName column.name

section

variable {insert : Insert} {scope : Context} {package struct holder table : String}
  (given : named scope "var_name" = .text holder)
include given

/-- A round of the loop over the columns writes the line of one argument. -/
theorem renderNodes_argumentBody {column : TextColumn}
    (current : named scope "column" = column.value) :
    renderNodes insert scope argumentBody =
      .ok ("        " ++ fieldOf holder column ++ "," ++ "\n", scope) := by
  -- The body is three texts and the two names between them.
  simp only [argumentBody, renderNodes_text, renderNodes_shown given,
    renderNodes_shownField current, renderNodes_nil, prepend_ok, fieldOf, String.append_empty,
    String.append_assoc]

/-- Among the values of a table, the nodes for a function that adds a row give its file. -/
theorem renderNodes_insertNodes {columns : List TextColumn}
    (packaged : named scope "package_name" = .text package)
    (structured : named scope "struct_name" = .text struct)
    (tabled : named scope "table_name" = .text table)
    (listed : named scope "columns" = .list (columns.map TextColumn.value)) :
    renderNodes insert scope insertNodes =
      .ok (insertFile package struct holder table (columns.map (·.name))
        ((List.range' 1 columns.length).map fun index => "$" ++ toString index)
        (columns.map (fieldOf holder)), scope) := by
  -- The holder is known inside the loop too, where only the column is new.
  have rounds : ∀ column : TextColumn, ∃ last,
      renderNodes insert (("column", column.value) :: scope) argumentBody =
        .ok ("        " ++ fieldOf holder column ++ "," ++ "\n", last) := by
    intro column
    refine ⟨_, renderNodes_argumentBody ?_ (named_cons_self ..)⟩
    rw [named_cons_of_ne (by decide), given]
  simp only [insertNodes, openingNodes, List.cons_append, List.nil_append, renderNodes_text,
    renderNodes_shown packaged, renderNodes_shown structured, renderNodes_shown given,
    renderNodes_shown tabled, renderNodes_print (eval_columnNames listed),
    renderNodes_print (eval_placeholders listed),
    renderNodes_lines (by decide) (eval_named listed) rounds, renderNodes_nil, prepend_ok]
  -- The nodes have been rendered; both sides are now texts joined in different groups.
  simp only [insertFile, List.map_map, Function.comp_def, List.cons_append, List.nil_append,
    sourceOf_append, sourceOf_cons, sourceOf_nil, String.append_assoc, String.append_empty,
    String.empty_append, -String.reduceAppend]

end

section

variable (table package : String) (columns : List TextColumn) (imports : List String)

/-- Adding a row is generated for every table, with each value as it stands in the table. -/
theorem generate_insert :
    ((builtInGenerator Formatter.unchanged).generate (.text "insert")
      (.table (.ofTexts table columns (.text package) imports))).result =
        .ok (insertFile package (Naming.typeName table) (Naming.variableName table) table
          (columns.map (·.name))
          ((List.range' 1 columns.length).map fun index => "$" ++ toString index)
          (columns.map (fieldOf (Naming.variableName table)))).toUTF8 := by
  -- The nodes are those of the built-in source, among the values of the table.
  obtain ⟨_, _, found, _⟩ := get?_builtIn
  obtain ⟨_, _, generated⟩ := generate_of_tableScope table columns (.text package) imports found
    (fun shelf => (passive_builtIn shelf).2.2.1) fun insert paths => by
      obtain ⟨tabled, listed, packaged, _, structured, given, _, _⟩ :=
        named_tableScope table columns (.text package) paths
      exact renderNodes_insertNodes given packaged structured tabled listed
  exact generated

/-- The column list, the placeholders and the arguments of an added row go by the same columns. -/
theorem generate_insert_aligned (host : Host) (settings : Settings) :
    ∃ maker names flags arguments,
      (create host settings (some Formatter.unchanged) []).result = .ok maker ∧
      (maker.generator.generate (.text "insert")
        (.table (.ofTexts table columns (.text package) imports))).result =
          .ok (insertFile package (Naming.typeName table) (Naming.variableName table) table names
            flags arguments).toUTF8 ∧
      names.length = columns.length ∧ flags.length = columns.length ∧
      arguments.length = columns.length ∧
      ∀ (i : Nat) (inside : i < columns.length),
        names[i]? = some columns[i].name ∧ flags[i]? = some ("$" ++ toString (i + 1)) ∧
        arguments[i]? =
          some (Naming.variableName table ++ "." ++ Naming.typeName columns[i].name) := by
  -- The file is made of three lists over the same columns, which are read place by place.
  refine ⟨_, _, _, _, create_builtIn host settings Formatter.unchanged,
    generate_insert table package columns imports, ?_, ?_, ?_, ?_⟩
  · rw [List.length_map]
  · rw [List.length_map, List.length_range']
  · rw [List.length_map]
  · intro i inside
    refine ⟨?_, ?_, ?_⟩
    · -- A name stands at the place of its column.
      rw [getElem?_map_columns _ inside]
    · -- Placeholders are counted from one, places from zero.
      rw [List.getElem?_map, List.getElem?_range' inside, Option.map_some]
      simp [Nat.add_comm]
    · -- An argument is the field of the column at its place.
      rw [getElem?_map_columns _ inside, fieldOf]

end

end Tablewright.Target
