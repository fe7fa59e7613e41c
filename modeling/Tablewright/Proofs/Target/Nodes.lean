import Tablewright.Proofs.Target.Source
import Tablewright.Proofs.Template.Alike
import Tablewright.Proofs.Template.Compiling
import Tablewright.Proofs.Template.Passive

/-! The nodes that the built-in templates compile to. -/

namespace Tablewright.Target

open Template

/-- The node that prints the value of a name. -/
def shown (name : String) : Node := .print (.named name)

/-- The name of the column that a loop is at. -/
def columnName : Expr := .member (.named "column") "name"

/-- The node that prints the field name of the column that a loop is at. -/
def shownField : Node := .print (.filter "go_name" columnName [])

/-- The first line of every file, up to the name of its package. -/
def openingNodes : List Node :=
  [.text (sourceOf ["// Code generated by boilergen. DO NOT EDIT.", ""] ++ "package "),
    shown "package_name"]

/-- The line of one import. -/
def importBody : List Node := [.text "    \"", shown "path", .text ("\"" ++ "\n")]

/-- The lines of the imports. -/
def importNodes : List Node :=
  [.text ("" ++ "\n" ++ "import (" ++ "\n"), .each "path" (.named "imports") importBody [],
    .text (")" ++ "\n")]

/-- The line of one field. -/
def fieldBody : List Node :=
  [.text "    ", shownField, .text " ", .print (.member (.named "column") "type"),
    .text " `db:\"", .print (.call (.named "db_name") [.named "table_name", columnName]),
    .text ("\"`" ++ "\n")]

/-- The nodes of the template for a type. -/
def structNodes : List Node :=
  openingNodes ++
  [.text "\n", .branch [(.named "imports", importNodes)] [], .text ("" ++ "\n" ++ "// "),
    shown "struct_name", .text " is an object representing the ", shown "table_name",
    .text (" table." ++ "\n" ++ "type "), shown "struct_name", .text (" struct \x7b" ++ "\n"),
    .each "column" (.named "columns") fieldBody [], .text ("\x7d" ++ "\n")]

/-- The argument that one column is read into, with the separator behind it. -/
def destinationBody : List Node :=
  [.text "&o.", shownField,
    .branch [(.not (.member (.named "loop") "last"), [.text ", "])] []]

/-- The nodes of the template for a function that reads every row. -/
def selectNodes : List Node :=
  openingNodes ++
  [.text ("\n" ++ sourceOf ["", "import (", "    \"database/sql\"", ")", ""] ++ "// "),
    shown "struct_name", .text "All retrieves every row of the ", shown "table_name",
    .text (" table." ++ "\n" ++ "func "), shown "struct_name", .text "All(db *sql.DB) ([]*",
    shown "struct_name",
    .text (", error) \x7b" ++ "\n" ++ "    rows, err := db.Query(`SELECT "),
    .print (.call (.named "select_param_names") [.named "table_name", .named "columns"]),
    .text " FROM ", shown "table_name",
    .text ("`)" ++ "\n" ++
      sourceOf ["    if err != nil \x7b", "        return nil, err", "    \x7d",
        "    defer rows.Close()", ""] ++ "    var results []*"),
    shown "struct_name", .text ("\n" ++ "    for rows.Next() \x7b" ++ "\n" ++ "        o := &"),
    shown "struct_name",
    .text ("\x7b\x7d" ++ "\n" ++ "        if err := rows.Scan("),
    .each "column" (.named "columns") destinationBody [],
    .text ("); err != nil \x7b" ++ "\n" ++
      sourceOf ["            return nil, err", "        \x7d",
        "        results = append(results, o)", "    \x7d", "", "    return results, rows.Err()",
        "\x7d"])]

/-- The line of one argument of an inserted row. -/
def argumentBody : List Node :=
  [.text "        ", shown "var_name", .text ".", shownField, .text ("," ++ "\n")]

/-- The nodes of the template for a function that adds a row. -/
def insertNodes : List Node :=
  openingNodes ++
  [.text ("\n" ++ sourceOf ["", "import (", "    \"database/sql\"", "    \"errors\"", ")", ""] ++
      "// Insert"),
    shown "struct_name", .text " inserts a single row into the ", shown "table_name",
    .text (" table." ++ "\n" ++ "func Insert"), shown "struct_name", .text "(db *sql.DB, ",
    shown "var_name", .text " *", shown "struct_name",
    .text (") error \x7b" ++ "\n" ++ "    if "), shown "var_name",
    .text (" == nil \x7b" ++ "\n" ++ "        return errors.New(\""), shown "package_name",
    .text ": no ", shown "struct_name",
    .text (" provided for insertion\")" ++ "\n" ++ sourceOf ["    \x7d", ""] ++
      "    _, err := db.Exec(`INSERT INTO "),
    shown "table_name", .text " (", .print (.filter "insert_param_names" (.named "columns") []),
    .text ") VALUES (", .print (.filter "insert_param_flags" (.named "columns") []),
    .text (")`," ++ "\n"), .each "column" (.named "columns") argumentBody [],
    .text (sourceOf ["    )", "    return err", "\x7d"])]

/-- The nodes of the template for a function that deletes a row. -/
def deleteNodes : List Node :=
  openingNodes ++
  [.text ("\n" ++ sourceOf ["", "import (", "    \"database/sql\"", "    \"errors\"", ")", ""] ++
      "// Delete"),
    shown "struct_name", .text " deletes the ", shown "table_name",
    .text (" row with the given id." ++ "\n" ++ "func Delete"), shown "struct_name",
    .text ("(db *sql.DB, id int) error \x7b" ++ "\n" ++ "    if id == 0 \x7b" ++ "\n" ++
      "        return errors.New(\""),
    shown "package_name", .text ": no id provided for ", shown "struct_name",
    .text (" delete\")" ++ "\n" ++ sourceOf ["    \x7d", ""] ++
      "    _, err := db.Exec(\"DELETE FROM "),
    shown "table_name",
    .text (" WHERE id=$1\", id)" ++ "\n" ++ sourceOf ["    return err", "\x7d"])]

/-- No built-in template inserts another one. -/
theorem not_inserts_builtIn :
    anyInserts structNodes = false ∧ anyInserts selectNodes = false ∧
      anyInserts insertNodes = false ∧ anyInserts deleteNodes = false := by
  decide

/-- No built-in template calls a method. -/
theorem not_sends_builtIn :
    bodySends structNodes = false ∧ bodySends selectNodes = false ∧
      bodySends insertNodes = false ∧ bodySends deleteNodes = false := by
  decide

/-- Wherever they stand, the built-in templates call no methods. -/
theorem passive_builtIn (shelf : Shelf) :
    shelf.Passive structNodes ∧ shelf.Passive selectNodes ∧ shelf.Passive insertNodes ∧
      shelf.Passive deleteNodes := by
  -- Nodes that insert nothing call no methods but their own, and these call none.
  obtain ⟨structCloses, selectCloses, insertCloses, deleteCloses⟩ := not_inserts_builtIn
  obtain ⟨structKeeps, selectKeeps, insertKeeps, deleteKeeps⟩ := not_sends_builtIn
  exact ⟨.of_closed structKeeps structCloses shelf, .of_closed selectKeeps selectCloses shelf,
    .of_closed insertKeeps insertCloses shelf, .of_closed deleteKeeps deleteCloses shelf⟩

/-- The built-in sources by file name, each with the nodes it compiles to. -/
theorem compile_builtIn :
    compileNodes (sourceOf structLines) = .ok structNodes ∧
    compileNodes (sourceOf selectLines) = .ok selectNodes ∧
    compileNodes (sourceOf insertLines) = .ok insertNodes ∧
    compileNodes (sourceOf deleteLines) = .ok deleteNodes := by
  -- The sources are spelled out first, so that reading them needs no decoding of their bytes.
  unfold structLines selectLines insertLines deleteLines scanArguments opening imported complaint
    fieldName packageName tableName varName structName eachColumn loopEnd value tag
  refine ⟨?_, ?_, ?_, ?_⟩
  all_goals
    -- Once a source is a list of characters, compiling it is a computation.
    apply compileNodes_of_chars (toList_sourceOf _)
    simp only [List.map_cons, List.map_nil, List.cons_append, List.nil_append, List.flatMap_cons,
      List.flatMap_nil, String.toList_append, -String.reduceAppend, -String.reduceToList]
    repeat rw [String.toList_ofList]
    decide +kernel

end Tablewright.Target
