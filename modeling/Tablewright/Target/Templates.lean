import Tablewright.Registry

/-! The built-in templates: each gives a whole Go source file for one table. -/

namespace Tablewright.Target

/-- A tag that prints an expression. -/
def value (expression : String) : String := "\x7b\x7b " ++ expression ++ " \x7d\x7d"

/-- A tag that steers what is printed. -/
def tag (statement : String) : String := "\x7b% " ++ statement ++ " %\x7d"

/-- The tag that prints the name of the table. -/
def tableName : String := value "table_name"

/-- The tag that prints the type name of the table. -/
def structName : String := value "struct_name"

/-- The tag that prints the name of the package. -/
def packageName : String := value "package_name"

/-- The tag that prints the variable name of the table. -/
def varName : String := value "var_name"

/-- The tag that prints the field name of a column. -/
def fieldName : String := value "column.name | go_name"

/-- Opens the loop over columns. -/
def eachColumn : String := tag "for column in columns"

/-- Closes a loop. -/
def loopEnd : String := tag "endfor"

/-- The lines at the top of every file. -/
def opening : List String :=
  ["// Code generated by boilergen. DO NOT EDIT.", "", "package " ++ packageName]

/-- An import of standard packages. -/
def imported (packages : List String) : List String :=
  ["", "import ("] ++ packages.map (fun package => "    \"" ++ package ++ "\"") ++ [")"]

/-- The return of an error about a missing argument. -/
def complaint (text : String) : String :=
  "        return errors.New(\"" ++ packageName ++ ": no " ++ text ++ "\")"

/-- A type with a field for every column. -/
def structLines : List String :=
  opening ++
  [tag "if imports", "", "import (", tag "for path in imports", "    \"" ++ value "path" ++ "\"",
    loopEnd, ")", tag "endif", "",
    "// " ++ structName ++ " is an object representing the " ++ tableName ++ " table.",
    "type " ++ structName ++ " struct \x7b", eachColumn,
    "    " ++ fieldName ++ " " ++ value "column.type" ++ " `db:\"" ++
      value "db_name(table_name, column.name)" ++ "\"`",
    loopEnd, "\x7d"]

/-- The arguments that one row is read into. -/
def scanArguments : String :=
  eachColumn ++ "&o." ++ fieldName ++ tag "if not loop.last" ++ ", " ++ tag "endif" ++ loopEnd

/-- A function that reads every row. -/
def selectLines : List String :=
  opening ++ imported ["database/sql"] ++
  ["", "// " ++ structName ++ "All retrieves every row of the " ++ tableName ++ " table.",
    "func " ++ structName ++ "All(db *sql.DB) ([]*" ++ structName ++ ", error) \x7b",
    "    rows, err := db.Query(`SELECT " ++ value "select_param_names(table_name, columns)" ++
      " FROM " ++ tableName ++ "`)",
    "    if err != nil \x7b", "        return nil, err", "    \x7d", "    defer rows.Close()", "",
    "    var results []*" ++ structName, "    for rows.Next() \x7b",
    "        o := &" ++ structName ++ "\x7b\x7d",
    "        if err := rows.Scan(" ++ scanArguments ++ "); err != nil \x7b",
    "            return nil, err", "        \x7d", "        results = append(results, o)",
    "    \x7d", "", "    return results, rows.Err()", "\x7d"]

/-- A function that adds a row. -/
def insertLines : List String :=
  opening ++ imported ["database/sql", "errors"] ++
  ["", "// Insert" ++ structName ++ " inserts a single row into the " ++ tableName ++ " table.",
    "func Insert" ++ structName ++ "(db *sql.DB, " ++ varName ++ " *" ++ structName ++
      ") error \x7b",
    "    if " ++ varName ++ " == nil \x7b", complaint (structName ++ " provided for insertion"),
    "    \x7d", "",
    "    _, err := db.Exec(`INSERT INTO " ++ tableName ++ " (" ++
      value "columns | insert_param_names" ++ ") VALUES (" ++
      value "columns | insert_param_flags" ++ ")`,",
    eachColumn, "        " ++ varName ++ "." ++ fieldName ++ ",", loopEnd, "    )",
    "    return err", "\x7d"]

/-- A function that deletes a row. -/
def deleteLines : List String :=
  opening ++ imported ["database/sql", "errors"] ++
  ["", "// Delete" ++ structName ++ " deletes the " ++ tableName ++ " row with the given id.",
    "func Delete" ++ structName ++ "(db *sql.DB, id int) error \x7b", "    if id == 0 \x7b",
    complaint ("id provided for " ++ structName ++ " delete"), "    \x7d", "",
    "    _, err := db.Exec(\"DELETE FROM " ++ tableName ++ " WHERE id=$1\", id)",
    "    return err", "\x7d"]

/-- Lines as one text, each with its end. -/
def sourceOf (lines : List String) : String := String.join (lines.map (· ++ "\n"))

/-- The sources of the built-in templates. -/
def builtIn : Sources :=
  [("struct", sourceOf structLines), ("select", sourceOf selectLines),
    ("insert", sourceOf insertLines), ("delete", sourceOf deleteLines)]

end Tablewright.Target
