import Tablewright.Proofs.Target.BuiltIn
import Tablewright.Proofs.Target.Expressions

/-! The generated file that reads all rows: what is selected and what it is read into line up. -/

namespace Tablewright.Target

open Template TableGenerator

/-- The file that reads all rows, with what is selected and what each of it is read into. -/
def selectFile (package struct table : String) (selected destinations : List String) : String :=
  sourceOf
    ["// Code generated by boilergen. DO NOT EDIT.", "", "package " ++ package, "", "import (",
      "    \"database/sql\"", ")", "",
      "// " ++ struct ++ "All retrieves every row of the " ++ table ++ " table.",
      "func " ++ struct ++ "All(db *sql.DB) ([]*" ++ struct ++ ", error) \x7b",
      "    rows, err := db.Query(`SELECT " ++ ", ".intercalate selected ++ " FROM " ++ table ++
        "`)",
      "    if err != nil \x7b", "        return nil, err", "    \x7d", "    defer rows.Close()", "",
      "    var results []*" ++ struct, "    for rows.Next() \x7b",
      "        o := &" ++ struct ++ "\x7b\x7d",
      "        if err := rows.Scan(" ++ ", ".intercalate destinations ++ "); err != nil \x7b",
      "            return nil, err", "        \x7d", "        results = append(results, o)",
      "    \x7d", "", "    return results, rows.Err()", "\x7d"]

/-- The file that reads all rows, spelled out without lines. -/
theorem selectFile_eq_text (package struct table : String) (selected destinations : List String) :
    selectFile package struct table selected destinations =
      "// Code generated by boilergen. DO NOT EDIT.\n\npackage " ++ package ++
      "\n\nimport (\n    \"database/sql\"\n)\n\n// " ++ struct ++
      "All retrieves every row of the " ++ table ++ " table.\nfunc " ++ struct ++
      "All(db *sql.DB) ([]*" ++ struct ++ ", error) \x7b\n    rows, err := db.Query(`SELECT " ++
      ", ".intercalate selected ++ " FROM " ++ table ++
      "`)\n    if err != nil \x7b\n        return nil, err\n    \x7d\n    defer rows.Close()\n\n" ++
      "    var results []*" ++ struct ++ "\n    for rows.Next() \x7b\n        o := &" ++ struct ++
      "\x7b\x7d\n        if err := rows.Scan(" ++ ", ".intercalate destinations ++
      "); err != nil \x7b\n            return nil, err\n        \x7d\n" ++
      "        results = append(results, o)\n    \x7d\n\n" ++
      "    return results, rows.Err()\n\x7d\n" := by
  simp only [selectFile, sourceOf, List.map_cons, List.map_nil, String.join_cons, String.join_nil]
  -- Texts grouped to the left first are put together where they meet when grouped to the right.
  simp only [← String.append_assoc]
  simp only [String.append_assoc, String.reduceAppend]

/-- Where a row is read into for a column. -/
def destinationOf (column : TextColumn) : String := "&o." ++ Naming.typeName column.name

section

variable {insert : Insert} {scope : Context}

/-- A round of the loop over the columns writes a destination, with a separator unless it ends. -/
theorem renderNodes_destinationBody {column : TextColumn} {done length : Nat}
    (current : named scope "column" = column.value)
    (looping : named scope loopName = .loop ⟨done, length⟩) :
    renderNodes insert scope destinationBody =
      .ok (destinationOf column ++ if done + 1 = length then "" else ", ", scope) := by
  -- The separator is a branch of its own, taken by whether the round is the last one.
  have separator : renderNodes insert scope [.text ", "] = .ok (", ", scope) := by
    rw [renderNodes_text, renderNodes_nil, prepend_ok, String.append_empty]
  have asked := eval_notLast looping
  rw [destinationBody, renderNodes_text, renderNodes_shownField current, ← loopName, destinationOf]
  -- The separator is left out behind the last round and nowhere else.
  by_cases last : done + 1 = length
  · -- The last round ends with its destination.
    rw [renderNodes_branch_false asked (by simp [last, Value.truth, Pure.pure, Except.pure]),
      renderNodes_nil, if_pos last]
    simp only [prepend_ok, String.append_empty]
  · -- Any other round goes on with the separator.
    rw [renderNodes_branch_true asked (by simp [last, Value.truth, Pure.pure, Except.pure])
      separator, renderNodes_nil, if_neg last]
    simp only [prepend_ok, String.append_empty, String.append_assoc]

/-- Among the values of a table, the nodes for a function that reads all rows give its file. -/
theorem renderNodes_selectNodes {package struct table : String} {columns : List TextColumn}
    (packaged : named scope "package_name" = .text package)
    (structured : named scope "struct_name" = .text struct)
    (tabled : named scope "table_name" = .text table)
    (listed : named scope "columns" = .list (columns.map TextColumn.value))
    (operation : named scope "select_param_names" = .helper .aliasedColumns) :
    renderNodes insert scope selectNodes =
      .ok (selectFile package struct table
        (columns.map fun column => Fragment.aliased table column.name)
        (columns.map destinationOf), scope) := by
  -- Each round learns its column and where the loop stands, and nothing else changes.
  have rounds : ∀ (column : TextColumn) done, ∃ last,
      renderNodes insert
          (("column", column.value) :: (loopName, .loop ⟨done, columns.length⟩) :: scope)
          destinationBody =
        .ok (destinationOf column ++ if done + 1 = columns.length then "" else ", ", last) := by
    intro column done
    refine ⟨_, renderNodes_destinationBody (named_cons_self ..) ?_⟩
    rw [named_cons_of_ne (by decide), named_cons_self]
  simp only [selectNodes, openingNodes, List.cons_append, List.nil_append, renderNodes_text,
    renderNodes_shown packaged, renderNodes_shown structured, renderNodes_shown tabled,
    renderNodes_print (eval_aliasedColumns listed operation tabled),
    renderNodes_separated (by decide) (eval_named listed) rounds, renderNodes_nil, prepend_ok]
  -- The nodes have been rendered; both sides are now texts joined in different groups.
  simp only [selectFile, sourceOf_cons, sourceOf_nil, String.append_assoc, String.append_empty,
    String.empty_append, -String.reduceAppend]

end

section

variable (table package : String) (columns : List TextColumn) (imports : List String)

/-- Reading all rows is generated for every table, with each value as it stands in the table. -/
theorem generate_select :
    ((builtInGenerator Formatter.unchanged).generate (.text "select")
      (.table (.ofTexts table columns (.text package) imports))).result =
        .ok (selectFile package (Naming.typeName table) table
          (columns.map fun column => Fragment.aliased table column.name)
          (columns.map destinationOf)).toUTF8 := by
  -- The nodes are those of the built-in source, among the values of the table.
  obtain ⟨_, found, _⟩ := get?_builtIn
  obtain ⟨_, _, generated⟩ := generate_of_tableScope table columns (.text package) imports found
    (fun shelf => (passive_builtIn shelf).2.1) fun insert paths => by
      obtain ⟨tabled, listed, packaged, _, structured, _, _, operation⟩ :=
        named_tableScope table columns (.text package) paths
      exact renderNodes_selectNodes packaged structured tabled listed operation
  exact generated

/-- What is selected and what it is read into go by the same columns, separated alike. -/
theorem generate_select_aligned (host : Host) (settings : Settings) :
    ∃ maker selected destinations,
      (create host settings (some Formatter.unchanged) []).result = .ok maker ∧
      (maker.generator.generate (.text "select")
        (.table (.ofTexts table columns (.text package) imports))).result =
          .ok (selectFile package (Naming.typeName table) table selected destinations).toUTF8 ∧
      selected.length = columns.length ∧ destinations.length = columns.length ∧
      (∀ (i : Nat) (inside : i < columns.length),
        selected[i]? = some (columns[i].name ++ " AS " ++ (table ++ "_" ++ columns[i].name)) ∧
        destinations[i]? = some ("&o." ++ Naming.typeName columns[i].name)) ∧
      ∀ texts ∈ [selected, destinations],
        (", ".intercalate texts).length =
          (String.join texts).length + 2 * (columns.length - 1) := by
  -- The file is made of two lists over the same columns, which are read place by place.
  refine ⟨_, _, _, create_builtIn host settings Formatter.unchanged,
    generate_select table package columns imports, ?_, ?_, ?_, ?_⟩
  · rw [List.length_map]
  · rw [List.length_map]
  · intro i inside
    refine ⟨?_, ?_⟩
    · -- What is selected at a place is the column there, under its tag.
      rw [getElem?_map_columns _ inside, Fragment.aliased, Fragment.tagName_eq]
    · -- What it is read into is the field of the same column.
      rw [getElem?_map_columns _ inside, destinationOf]
  · intro texts member
    -- Both lists are as long as the list of columns, so they hold as many separators.
    have counted : texts.length = columns.length := by
      simp only [List.mem_cons, List.not_mem_nil, or_false] at member
      rcases member with rfl | rfl <;> rw [List.length_map]
    rw [Text.length_intercalate, counted]
    rfl

end

end Tablewright.Target
