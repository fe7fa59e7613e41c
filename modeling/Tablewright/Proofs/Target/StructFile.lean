import Tablewright.Proofs.Target.SelectFile

/-! The generated file of the type of a row: its imports as a set, and a tagged field per column. -/

namespace Tablewright.Target

open Template TableGenerator

/-- The lines of the imports, which are left out with the last one of them. -/
def importLines (paths : List String) : List String :=
  if paths.isEmpty then []
  else ["", "import ("] ++ paths.map (fun path => "    \"" ++ path ++ "\"") ++ [")"]

/-- The line of the field of a column under a tag. -/
def fieldLine (column : TextColumn) (tag : String) : String :=
  "    " ++ Naming.typeName column.name ++ " " ++ column.type ++ " `db:\"" ++ tag ++ "\"`"

/-- The file of the type of a row, with a tag for each column. -/
def structFile (package struct table : String) (paths : List String) (columns : List TextColumn)
    (tags : List String) : String :=
  sourceOf <|
    ["// Code generated by boilergen. DO NOT EDIT.", "", "package " ++ package] ++
    importLines paths ++
    ["", "// " ++ struct ++ " is an object representing the " ++ table ++ " table.",
      "type " ++ struct ++ " struct \x7b"] ++
    List.zipWith fieldLine columns tags ++ ["\x7d"]

/-- The file of the type of a row, spelled out without lines. -/
theorem structFile_eq_text (package struct table : String) (paths : List String)
    (columns : List TextColumn) (tags : List String) :
    structFile package struct table paths columns tags =
      "// Code generated by boilergen. DO NOT EDIT.\n\npackage " ++ package ++ "\n" ++
      (if paths.isEmpty then ""
        else "\nimport (\n" ++
          String.join (paths.map fun path => "    \"" ++ path ++ "\"\n") ++ ")\n") ++
      "\n// " ++ struct ++ " is an object representing the " ++ table ++ " table.\ntype " ++
      struct ++ " struct \x7b\n" ++
      String.join (List.zipWith (fun column tag => "    " ++ Naming.typeName column.name ++ " " ++
        column.type ++ " `db:\"" ++ tag ++ "\"`\n") columns tags) ++ "\x7d\n" := by
  simp only [structFile, importLines, fieldLine, sourceOf, apply_ite (List.map _),
    apply_ite String.join, List.map_append, List.map_cons, List.map_nil, List.map_map,
    List.map_zipWith, List.cons_append, List.nil_append, String.join_append, String.join_cons,
    String.join_nil, Function.comp_def]
  -- Texts grouped to the left first are put together where they meet when grouped to the right.
  simp only [← String.append_assoc]
  simp only [String.append_assoc, String.reduceAppend, String.append_empty]

/-- The tags of columns in a table. -/
def tagsOf (table : String) (columns : List TextColumn) : List String :=
  columns.map fun column => Naming.tagName table column.name

/-- With the tags of a table, each column has a line of its own. -/
theorem fieldLines_tagsOf (table : String) (columns : List TextColumn) :
    List.zipWith fieldLine columns (tagsOf table columns) =
      columns.map fun column => fieldLine column (Naming.tagName table column.name) := by
  rw [tagsOf, List.zipWith_map_right, List.zipWith_self]

section

variable {insert : Insert} {scope : Context} {rest : List Node}

/-- A round of the loop over the imports writes the line of one import. -/
theorem renderNodes_importBody {path : String} (current : named scope "path" = .text path) :
    renderNodes insert scope importBody = .ok ("    \"" ++ path ++ "\"" ++ "\n", scope) := by
  simp only [importBody, renderNodes_text, renderNodes_shown current, renderNodes_nil, prepend_ok,
    String.append_empty, String.append_assoc]

/-- The nodes of the imports give their lines when there is an import, and no text otherwise. -/
theorem renderNodes_imports {paths : List String}
    (imported : named scope "imports" = .list (paths.map .text)) :
    renderNodes insert scope (.branch [(.named "imports", importNodes)] [] :: rest) =
      prepend (sourceOf (importLines paths)) (renderNodes insert scope rest) := by
  -- The block is a branch on the list itself, and its lines are a loop over it.
  have evaluated : (Expr.named "imports").eval scope = .ok (.list (paths.map .text)) :=
    eval_named imported
  have rounds : ∀ path, ∃ last,
      renderNodes insert (("path", .text path) :: scope) importBody =
        .ok ("    \"" ++ path ++ "\"" ++ "\n", last) :=
    fun path => ⟨_, renderNodes_importBody (named_cons_self ..)⟩
  cases paths with
  | nil =>
    -- Without an import the whole block is left out.
    rw [renderNodes_branch_false evaluated (by simp [Value.truth, Pure.pure, Except.pure])]
    rfl
  | cons first others =>
    -- With one import at least, the block stands with a line for each of them.
    apply renderNodes_branch_true evaluated (by simp [Value.truth, Pure.pure, Except.pure])
    simp only [importNodes, renderNodes_text, renderNodes_lines (by decide) evaluated rounds,
      renderNodes_nil, prepend_ok, importLines, List.isEmpty_cons, Bool.false_eq_true, if_false,
      List.cons_append, List.nil_append, sourceOf_append, sourceOf_cons, sourceOf_nil,
      String.append_assoc, String.append_empty, String.empty_append, -String.reduceAppend]

/-- A round of the loop over the columns writes the line of one field. -/
theorem renderNodes_fieldBody {column : TextColumn} {table : String}
    (current : named scope "column" = column.value)
    (operation : named scope "db_name" = .helper .tagName)
    (tabled : named scope "table_name" = .text table) :
    renderNodes insert scope fieldBody =
      .ok (fieldLine column (Naming.tagName table column.name) ++ "\n", scope) := by
  -- The body is the name of the field, its type and its tag, with fixed texts between them.
  simp only [fieldBody, renderNodes_text, renderNodes_shownField current,
    renderNodes_print (eval_columnType current),
    renderNodes_print (eval_tagName current operation tabled), renderNodes_nil, prepend_ok,
    fieldLine, String.append_empty, String.append_assoc, -String.reduceAppend]

/-- Among the values of a table, the nodes for the type of a row give its file. -/
theorem renderNodes_structNodes {package struct table : String} {columns : List TextColumn}
    {paths : List String} (packaged : named scope "package_name" = .text package)
    (structured : named scope "struct_name" = .text struct)
    (tabled : named scope "table_name" = .text table)
    (listed : named scope "columns" = .list (columns.map TextColumn.value))
    (imported : named scope "imports" = .list (paths.map .text))
    (operation : named scope "db_name" = .helper .tagName) :
    renderNodes insert scope structNodes =
      .ok (structFile package struct table paths columns (tagsOf table columns), scope) := by
  -- The table and the operation are known inside the loop too, where only the column is new.
  have rounds : ∀ column : TextColumn, ∃ last,
      renderNodes insert (("column", column.value) :: scope) fieldBody =
        .ok (fieldLine column (Naming.tagName table column.name) ++ "\n", last) := by
    intro column
    refine ⟨_, renderNodes_fieldBody (named_cons_self ..) ?_ ?_⟩
    · rw [named_cons_of_ne (by decide), operation]
    · rw [named_cons_of_ne (by decide), tabled]
  simp only [structNodes, openingNodes, List.cons_append, List.nil_append, renderNodes_text,
    renderNodes_shown packaged, renderNodes_shown structured, renderNodes_shown tabled,
    renderNodes_imports imported, renderNodes_lines (by decide) (eval_named listed) rounds,
    renderNodes_nil, prepend_ok]
  -- The nodes have been rendered; both sides are now texts joined in different groups.
  simp only [structFile, fieldLines_tagsOf, List.cons_append, List.nil_append, sourceOf_append,
    sourceOf_cons, sourceOf_nil, String.append_assoc, String.append_empty, String.empty_append,
    -String.reduceAppend]

end

section

variable (table package : String) (columns : List TextColumn) (imports : List String)

/-- The type of a row is generated for every table, with the imports of the table in order. -/
theorem generate_struct :
    ∃ paths, IncreasingSetOf paths imports ∧
      ((builtInGenerator Formatter.unchanged).generate (.text "struct")
        (.table (.ofTexts table columns (.text package) imports))).result =
          .ok (structFile package (Naming.typeName table) table paths columns
            (tagsOf table columns)).toUTF8 := by
  -- The nodes are those of the built-in source, among the values of the table.
  obtain ⟨found, _⟩ := get?_builtIn
  refine generate_of_tableScope table columns (.text package) imports found
    (fun shelf => (passive_builtIn shelf).1) fun insert paths => ?_
  obtain ⟨tabled, listed, packaged, imported, structured, _, operation, _⟩ :=
    named_tableScope table columns (.text package) paths
  exact renderNodes_structNodes packaged structured tabled listed imported operation

/-- A target depends on the imports of a table only as a set. -/
theorem generate_congr_imports {imports others : List String}
    (same : ∀ s, s ∈ imports ↔ s ∈ others) (maker : TableGenerator) (target : Value) :
    maker.generator.generate target (.table (.ofTexts table columns (.text package) imports)) =
      maker.generator.generate target
        (.table (.ofTexts table columns (.text package) others)) := by
  rw [Generator.generate_steps, Generator.generate_steps, Subject.context, Subject.context,
    context_ofTexts_congr table columns (.text package) same]

/-- The type of a row lists the imports as an ordered set and tags fields as rows are selected. -/
theorem generate_struct_tagged (host : Host) (settings : Settings) :
    ∃ maker paths tags destinations,
      (create host settings (some Formatter.unchanged) []).result = .ok maker ∧
      (maker.generator.generate (.text "struct")
        (.table (.ofTexts table columns (.text package) imports))).result =
          .ok (structFile package (Naming.typeName table) table paths columns tags).toUTF8 ∧
      IncreasingSetOf paths imports ∧ (paths = [] ↔ imports = []) ∧
      tags.length = columns.length ∧
      (∀ (i : Nat) (inside : i < columns.length),
        tags[i]? = some (table ++ "_" ++ columns[i].name)) ∧
      (∀ others : List String, (∀ s, s ∈ imports ↔ s ∈ others) →
        (maker.generator.generate (.text "struct")
          (.table (.ofTexts table columns (.text package) others))).result =
            .ok (structFile package (Naming.typeName table) table paths columns tags).toUTF8) ∧
      (maker.generator.generate (.text "select")
        (.table (.ofTexts table columns (.text package) imports))).result =
          .ok (selectFile package (Naming.typeName table) table
            (List.zipWith (fun column tag => column.name ++ " AS " ++ tag) columns tags)
            destinations).toUTF8 := by
  -- The same tags stand behind the fields and in what is selected.
  obtain ⟨paths, set, generated⟩ := generate_struct table package columns imports
  refine ⟨_, paths, tagsOf table columns, columns.map destinationOf,
    create_builtIn host settings Formatter.unchanged, generated, set, ?_, ?_, ?_, ?_, ?_⟩
  · -- Both lists have the same members, so they are empty together.
    simp only [List.eq_nil_iff_forall_not_mem, set.members]
  · -- There is one tag for each column.
    rw [tagsOf, List.length_map]
  · intro i inside
    rw [tagsOf, getElem?_map_columns _ inside, Fragment.tagName_eq]
  · -- The same set of imports makes the same context, whatever the list looks like.
    intro others same
    rw [← generate_congr_imports table package columns same ⟨_, settings⟩, generated]
  · -- What is selected for a column is the column under its tag.
    rw [generate_select, tagsOf, List.zipWith_map_right, List.zipWith_self]
    rfl

end

end Tablewright.Target
