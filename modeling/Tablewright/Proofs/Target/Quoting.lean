import Mathlib.Algebra.BigOperators.Group.List.Basic
import Tablewright.Proofs.Fragment.Decoding
import Tablewright.Proofs.Naming
import Tablewright.Proofs.Target.Identifier
import Tablewright.Proofs.Target.InsertFile
import Tablewright.Proofs.Target.SelectFile
import Tablewright.Proofs.Target.Warnings

/-! Names of a table of which nothing is said leave separators and quotes to generated source. -/

namespace Tablewright.Target

open Template TableGenerator

/-- The code point that begins and ends a raw text of Go. -/
def backquote : Char := '\x60'

/-- No identifier holds a backquote. -/
theorem isForeign_backquote : Text.isForeign backquote := by decide

section

variable {table : String} {columns : List TextColumn}

/-- The names that a usable table is described by hold nothing of ASCII that could end a name. -/
theorem Usable.isPlain (usable : Usable table columns) {name : String}
    (member : name ∈ table :: columns.map (·.name)) {c : Char} (inside : c ∈ name.toList)
    (ascii : c.toNat < 128) : Text.isPlain c := by
  -- The type or the field derived from the name is an identifier, and hides nothing of it.
  have fit : nameProblems (Naming.typeName name) = [] := by
    rcases List.mem_cons.mp member with rfl | listed
    · exact usable.typeFit
    · obtain ⟨column, among, rfl⟩ := List.mem_map.mp listed
      exact usable.fieldsFit column among
  exact Naming.isPlain_of_typeName (isIdentifier_of_nameProblems fit) inside ascii

section

variable (usable : Usable table columns) {column : TextColumn} (among : column ∈ columns)
  {c : Char} (foreign : Text.isForeign c)
include usable foreign

/-- The name of a usable table lacks what is foreign to identifiers. -/
theorem Usable.not_mem_table : c ∉ table.toList :=
  Text.not_mem_of_isForeign (fun _ inside ascii =>
    usable.isPlain (List.mem_cons_self ..) inside ascii) foreign

include among

/-- The name of a column of a usable table lacks what is foreign to identifiers. -/
theorem Usable.not_mem_column : c ∉ column.name.toList :=
  Text.not_mem_of_isForeign (fun _ inside ascii =>
    usable.isPlain (List.mem_cons_of_mem _ (List.mem_map_of_mem among)) inside ascii) foreign

/-- A tag lacks what is foreign to identifiers. -/
theorem Usable.not_mem_tag : c ∉ (table ++ "_" ++ column.name).toList := by
  -- A tag is the name of the table, an underscore and the name of the column.
  have ofSeparator : c ∉ "_".toList := Text.not_mem_of_all (by decide) foreign
  exact Text.not_mem_append
    (Text.not_mem_append (usable.not_mem_table foreign) ofSeparator)
    (usable.not_mem_column among foreign)

/-- A column under its tag lacks what is foreign to identifiers, beside blanks. -/
theorem Usable.not_mem_aliased (apart : c ≠ ' ') :
    c ∉ (Fragment.aliased table column.name).toList := by
  -- Between the name and its tag stands a keyword in blanks.
  have ofKeyword : c ∉ " AS ".toList := by
    have spelled : " AS ".toList = " ".toList ++ "AS".toList ++ " ".toList := by decide
    have ofWord : c ∉ "AS".toList := Text.not_mem_of_all (by decide) foreign
    simpa [spelled, apart] using ofWord
  rw [Fragment.aliased, Fragment.tagName_eq]
  exact Text.not_mem_append
    (Text.not_mem_append (usable.not_mem_column among foreign) ofKeyword)
    (usable.not_mem_tag among foreign)

end

/-- A column under its tag is cut at the keyword into the column and the tag. -/
theorem Usable.split_aliased (usable : Usable table columns) {column : TextColumn}
    (among : column ∈ columns) :
    Text.split " AS " (Fragment.aliased table column.name) =
      [column.name, table ++ "_" ++ column.name] := by
  -- The pair is two texts joined by the keyword.
  have joined : Fragment.aliased table column.name =
      " AS ".intercalate [column.name, table ++ "_" ++ column.name] := by
    rw [Fragment.aliased, Fragment.tagName_eq, String.intercalate_cons_cons,
      String.intercalate_singleton]
  have spelled : " AS ".toList = ' ' :: ['A', 'S', ' '] := by decide
  rw [joined]
  -- Neither half holds the blank that the keyword begins with.
  refine Text.split_intercalate spelled (by simp) fun text member => ?_
  rcases List.mem_cons.mp member with rfl | tag
  · exact usable.not_mem_column among (by decide)
  · rw [List.mem_singleton.mp tag]
    exact usable.not_mem_tag among (by decide)

/-- The column list of a usable table is cut at its separators into the names of the columns. -/
theorem Usable.split_columnNames (usable : Usable table columns) :
    Text.split ", " (", ".intercalate (columns.map (·.name))) = columns.map (·.name) := by
  -- No name holds a comma, so the list is cut at its separators alone.
  refine Fragment.split_listed (by simpa using usable.filled) fun name listed => ?_
  obtain ⟨column, among, rfl⟩ := List.mem_map.mp listed
  exact usable.not_mem_column among (by decide)

/-- The aliased list of a usable table is cut into columns under their tags, and each of these. -/
theorem Usable.split_aliasedColumns (usable : Usable table columns) :
    (Text.split ", " (", ".intercalate
        (columns.map fun column => Fragment.aliased table column.name))).map (Text.split " AS ") =
      columns.map fun column => [column.name, table ++ "_" ++ column.name] := by
  -- The list is cut at its commas first, and then every item at its keyword.
  have items : Text.split ", " (", ".intercalate
      (columns.map fun column => Fragment.aliased table column.name)) =
        columns.map fun column => Fragment.aliased table column.name := by
    refine Fragment.split_listed (by simpa using usable.filled) fun item listed => ?_
    obtain ⟨column, among, rfl⟩ := List.mem_map.mp listed
    exact usable.not_mem_aliased among (by decide) (by decide)
  -- Each item is a column under its tag.
  rw [items, List.map_map]
  exact List.map_congr_left fun column among => usable.split_aliased among

end

section

variable {package struct holder table : String}

/-- Two backquotes stand in the file that adds a row when none comes in with its parts. -/
theorem backquotes_insertFile {names flags arguments : List String}
    (free : ∀ text ∈ [package, struct, holder, table] ++ names ++ flags ++ arguments,
      backquote ∉ text.toList) :
    Text.occurrences backquote (insertFile package struct holder table names flags arguments) =
      2 := by
  -- Each part is counted by itself, and what is left are the fixed lines.
  have each : ∀ text ∈ [package, struct, holder, table] ++ names ++ flags ++ arguments,
      Text.occurrences backquote text = 0 := fun text member =>
    Text.occurrences_eq_zero.mpr (free text member)
  have ofPackage := each package (by simp)
  have ofStruct := each struct (by simp)
  have ofHolder := each holder (by simp)
  have ofTable := each table (by simp)
  have ofNames : Text.occurrences backquote (", ".intercalate names) = 0 :=
    Text.occurrences_intercalate (by decide) fun text member => free text (by simp [member])
  have ofFlags : Text.occurrences backquote (", ".intercalate flags) = 0 :=
    Text.occurrences_intercalate (by decide) fun text member => free text (by simp [member])
  have ofArguments : ((arguments.map fun argument => "        " ++ argument ++ ",").map
      (Text.occurrences backquote)).sum = 0 := by
    refine List.sum_eq_zero fun count counted => ?_
    simp only [List.map_map, List.mem_map] at counted
    obtain ⟨argument, member, rfl⟩ := counted
    have own := each argument (by simp [member])
    simp only [Function.comp_apply, Text.occurrences_append, own]
    decide
  -- The two backquotes are in the fixed lines around the statement.
  simp only [insertFile, occurrences_sourceOf (c := backquote) (by decide), List.map_append,
    ofArguments, List.map_cons, List.map_nil, List.sum_append, List.sum_cons,
    List.sum_nil, Text.occurrences_append, ofPackage, ofStruct, ofHolder, ofTable, ofNames, ofFlags]
  decide +kernel

/-- Two backquotes stand in the file that reads all rows when none comes in with its parts. -/
theorem backquotes_selectFile {selected destinations : List String}
    (free : ∀ text ∈ [package, struct, table] ++ selected ++ destinations,
      backquote ∉ text.toList) :
    Text.occurrences backquote (selectFile package struct table selected destinations) = 2 := by
  -- Each part is counted by itself, and what is left are the fixed lines.
  have each : ∀ text ∈ [package, struct, table] ++ selected ++ destinations,
      Text.occurrences backquote text = 0 := fun text member =>
    Text.occurrences_eq_zero.mpr (free text member)
  have ofPackage := each package (by simp)
  have ofStruct := each struct (by simp)
  have ofTable := each table (by simp)
  have ofSelected : Text.occurrences backquote (", ".intercalate selected) = 0 :=
    Text.occurrences_intercalate (by decide) fun text member => free text (by simp [member])
  have ofDestinations : Text.occurrences backquote (", ".intercalate destinations) = 0 :=
    Text.occurrences_intercalate (by decide) fun text member => free text (by simp [member])
  -- The two backquotes are in the fixed lines around the statement.
  simp only [selectFile, occurrences_sourceOf (c := backquote) (by decide), List.map_cons,
    List.map_nil, List.sum_cons, List.sum_nil, Text.occurrences_append, ofPackage, ofStruct,
    ofTable, ofSelected, ofDestinations]
  decide +kernel

end

section

variable {table package : String} {columns : List TextColumn}

/-- A name that can be used holds no backquote. -/
theorem backquote_not_mem {name : String} (fit : nameProblems name = []) :
    backquote ∉ name.toList :=
  Text.not_mem_of_isIdentifier (isIdentifier_of_nameProblems fit) isForeign_backquote

/-- The file that adds a row to a usable table encloses one raw text and nothing else. -/
theorem Usable.backquotes_insertFile (usable : Usable table columns)
    (packaged : backquote ∉ package.toList) :
    Text.occurrences backquote (insertFile package (Naming.typeName table)
      (Naming.variableName table) table (columns.map (·.name))
      ((List.range' 1 columns.length).map fun index => "$" ++ toString index)
      (columns.map (fieldOf (Naming.variableName table)))) = 2 := by
  -- The parts are names, fields and placeholders, and none of them holds a backquote.
  have ofVariable := backquote_not_mem usable.variableFit
  apply Target.backquotes_insertFile
  intro text member
  simp only [List.mem_append, List.mem_cons, List.not_mem_nil, or_false] at member
  rcases member with ((((rfl | rfl | rfl | rfl)) | name) | flag) | argument
  · exact packaged
  · -- Derived names are identifiers, so they hold no backquote.
    exact backquote_not_mem usable.typeFit
  · exact ofVariable
  · exact usable.not_mem_table isForeign_backquote
  · obtain ⟨column, among, rfl⟩ := List.mem_map.mp name
    exact usable.not_mem_column among isForeign_backquote
  · -- A placeholder is a number behind its sign.
    obtain ⟨index, _, rfl⟩ := List.mem_map.mp flag
    exact Text.not_mem_append (by decide) (Text.not_mem_toString (by decide) index)
  · -- An argument is a field of the variable.
    obtain ⟨column, among, rfl⟩ := List.mem_map.mp argument
    have ofField := backquote_not_mem (usable.fieldsFit column among)
    exact Text.not_mem_append (Text.not_mem_append ofVariable (by decide)) ofField

/-- The file that reads all rows of a usable table encloses one raw text and nothing else. -/
theorem Usable.backquotes_selectFile (usable : Usable table columns)
    (packaged : backquote ∉ package.toList) :
    Text.occurrences backquote (selectFile package (Naming.typeName table) table
      (columns.map fun column => Fragment.aliased table column.name)
      (columns.map destinationOf)) = 2 := by
  -- The parts are names, fields and tags, and none of them holds a backquote.
  apply Target.backquotes_selectFile
  intro text member
  simp only [List.mem_append, List.mem_cons, List.not_mem_nil, or_false] at member
  rcases member with ((rfl | rfl | rfl) | item) | destination
  · exact packaged
  · exact backquote_not_mem usable.typeFit
  · exact usable.not_mem_table isForeign_backquote
  · obtain ⟨column, among, rfl⟩ := List.mem_map.mp item
    exact usable.not_mem_aliased among isForeign_backquote (by decide)
  · -- A destination is the place of a field.
    obtain ⟨column, among, rfl⟩ := List.mem_map.mp destination
    have ofField := backquote_not_mem (usable.fieldsFit column among)
    exact Text.not_mem_append (by decide) ofField

end

/-- When nothing is said of a table, its names end neither lists nor raw texts around them. -/
theorem names_stay_quoted (host : Host) (settings : Settings) (table package : String)
    (columns : List TextColumn) (imports : List String)
    (silent : ((TableData.ofTexts table columns (.text package) imports).context >>= warnings) =
      .ok []) :
    (∀ name ∈ table :: columns.map (·.name), ∀ c ∈ name.toList,
      c.toNat < 128 → c.isAlphanum ∨ c = '_') ∧
    (∃ listed, Fragment.columnNamesOf (.list (columns.map TextColumn.value)) = .ok listed ∧
      Text.split ", " listed = columns.map (·.name)) ∧
    (∃ listed, Fragment.aliasedColumnsOf (.text table) (.list (columns.map TextColumn.value)) =
        .ok listed ∧
      (Text.split ", " listed).map (Text.split " AS ") =
        columns.map fun column => [column.name, table ++ "_" ++ column.name]) ∧
    (backquote ∉ package.toList → ∃ maker,
      (create host settings (some Formatter.unchanged) []).result = .ok maker ∧
      ∀ target ∈ ["insert", "select"], ∃ text,
        (maker.generator.generate (.text target)
          (.table (.ofTexts table columns (.text package) imports))).result = .ok text.toUTF8 ∧
        Text.occurrences backquote text = 2) := by
  -- A silent table is usable, and all parts follow from that.
  have usable := silent_iff_usable.mp silent
  refine ⟨?_, ?_, ?_, ?_⟩
  · -- Names of a usable table have identifiers derived from them.
    intro name member c inside ascii
    have plain := usable.isPlain member inside ascii
    simpa [Text.isPlain] using plain
  · exact ⟨_, Fragment.columnNamesOf_columns columns, usable.split_columnNames⟩
  · exact ⟨_, Fragment.aliasedColumnsOf_columns table columns, usable.split_aliasedColumns⟩
  · -- Which file is made is known for both targets, and its backquotes are counted.
    intro packaged
    refine ⟨_, create_builtIn host settings Formatter.unchanged, fun target member => ?_⟩
    simp only [List.mem_cons, List.not_mem_nil, or_false] at member
    rcases member with rfl | rfl
    · exact ⟨_, generate_insert table package columns imports,
        usable.backquotes_insertFile packaged⟩
    · exact ⟨_, generate_select table package columns imports,
        usable.backquotes_selectFile packaged⟩

/-- Columns with names inside and beyond ASCII. -/
def lengths : List TextColumn := [⟨"id", "int", .null⟩, ⟨"größe_mm", "int", .null⟩]

/-- All names derived for these columns can be used. -/
theorem usable_lengths : Usable "größen" lengths where
  -- The names go beyond ASCII, where the tables of letters are looked up.
  filled := by simp [lengths]
  typed := by simp [lengths]
  typeFit := by decide +kernel
  variableFit := by decide +kernel
  unshared := by decide +kernel
  fieldsFit := by
    simp only [lengths, List.mem_cons, List.not_mem_nil, or_false, forall_eq_or_imp, forall_eq]
    decide +kernel
  fieldsApart := by decide +kernel

/-- Names beyond ASCII can be used too, and come back from the lists they are put into. -/
theorem names_stay_quoted_lengths :
    ((TableData.ofTexts "größen" lengths (.text "models") []).context >>= warnings) = .ok [] ∧
    Text.split ", " "id, größe_mm" = ["id", "größe_mm"] ∧
    (Text.split ", " "id AS größen_id, größe_mm AS größen_größe_mm").map (Text.split " AS ") =
      [["id", "größen_id"], ["größe_mm", "größen_größe_mm"]] ∧
    ∃ maker, (create plainHost Settings.default (some Formatter.unchanged) []).result = .ok maker ∧
      ∀ target ∈ ["insert", "select"], ∃ text,
        (maker.generator.generate (.text target)
          (.table (.ofTexts "größen" lengths (.text "models") []))).result = .ok text.toUTF8 ∧
        Text.occurrences backquote text = 2 := by
  -- The table is usable, so the general statement applies, and its lists are written out.
  have silent : ((TableData.ofTexts "größen" lengths (.text "models") []).context >>= warnings) =
      .ok [] :=
    silent_iff_usable.mpr usable_lengths
  obtain ⟨-, ⟨names, named, cutNames⟩, ⟨items, itemized, cutItems⟩, quoted⟩ :=
    names_stay_quoted plainHost Settings.default "größen" "models" lengths [] silent
  -- The lists that exist are the ones that are computed.
  rw [Fragment.columnNamesOf_columns, Except.ok.injEq] at named
  rw [Fragment.aliasedColumnsOf_columns, Except.ok.injEq] at itemized
  subst named itemized
  exact ⟨silent, cutNames, cutItems, quoted (by decide)⟩

end Tablewright.Target
