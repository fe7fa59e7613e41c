import Tablewright.Proofs.Generation.Generator
import Tablewright.Proofs.Table
import Tablewright.Proofs.Target.Nodes
import Tablewright.Proofs.Value.Entries
import Tablewright.Target.Generator

/-! The built-in templates compile, and every generator made without further ones holds them. -/

namespace Tablewright.Target

open Template TableGenerator

/-- The built-in templates by file name. -/
def builtInRegistry : Registry :=
  ⟨[("struct.tpl", ⟨"struct.tpl", structNodes, ownShelf⟩),
    ("select.tpl", ⟨"select.tpl", selectNodes, ownShelf⟩),
    ("insert.tpl", ⟨"insert.tpl", insertNodes, ownShelf⟩),
    ("delete.tpl", ⟨"delete.tpl", deleteNodes, ownShelf⟩)]⟩

/-- The shelf that the built-in templates stand on. -/
def builtInShelves : Shelves :=
  [[("struct.tpl", sourceOf structLines), ("select.tpl", sourceOf selectLines),
    ("insert.tpl", sourceOf insertLines), ("delete.tpl", sourceOf deleteLines)]]

/-- The names of the built-in targets get the suffix of file names once. -/
theorem fileName_builtIn :
    fileName "struct" = "struct.tpl" ∧ fileName "select" = "select.tpl" ∧
    fileName "insert" = "insert.tpl" ∧ fileName "delete" = "delete.tpl" ∧
    fileName "struct.tpl" = "struct.tpl" ∧ fileName "select.tpl" = "select.tpl" ∧
    fileName "insert.tpl" = "insert.tpl" ∧ fileName "delete.tpl" = "delete.tpl" := by
  decide

/-- The built-in templates are found under the file names of their targets. -/
theorem get?_builtIn :
    builtInRegistry.get? (fileName "struct") = some ⟨"struct.tpl", structNodes, ownShelf⟩ ∧
    builtInRegistry.get? (fileName "select") = some ⟨"select.tpl", selectNodes, ownShelf⟩ ∧
    builtInRegistry.get? (fileName "insert") = some ⟨"insert.tpl", insertNodes, ownShelf⟩ ∧
    builtInRegistry.get? (fileName "delete") = some ⟨"delete.tpl", deleteNodes, ownShelf⟩ := by
  -- With the file names written out, the entries are looked up by computation.
  obtain ⟨structName, selectName, insertName, deleteName, _⟩ := fileName_builtIn
  rw [structName, selectName, insertName, deleteName]
  exact ⟨rfl, rfl, rfl, rfl⟩

/-- The entries of the built-in templates make a registry as they stand. -/
theorem ofEntries_builtIn : Registry.ofEntries builtInRegistry.entries = .ok builtInRegistry := by
  -- Each entry is met under a name that is whole and that no earlier one has.
  obtain ⟨_, _, _, _, structFile, selectFile, insertFile, deleteFile⟩ := fileName_builtIn
  simp [Registry.ofEntries, builtInRegistry, keysOf, structFile, selectFile, insertFile, deleteFile,
    Bind.bind, Except.bind, Pure.pure, Except.pure]

/-- A source under a new file name goes behind those on the shelf, and its template likewise. -/
theorem add_of_compiled {shelf : Shelf} {compiled : List (String × Template)}
    {name file source : String} {nodes : List Node} (called : fileName name = file)
    (whole : fileName file = file) (unshelved : lookup? file shelf = none)
    (fresh : file ∉ keysOf compiled) (made : compileNodes source = .ok nodes) :
    Registry.Compiling.add ownShelf ⟨[shelf], .ok compiled⟩ (name, source) =
      ⟨[shelf ++ [(file, source)]], .ok (compiled ++ [(file, ⟨file, nodes, ownShelf⟩)])⟩ := by
  -- The source is put behind all others, and from there it is read and compiled.
  have put : Shelf.put shelf file source = shelf ++ [(file, source)] := by
    rw [Shelf.put, whole, assign_of_lookup?_eq_none unshelved]
  have found : lookup? file (shelf ++ [(file, source)]) = some source :=
    lookup?_append_self unshelved source
  -- The file name is new, so the step takes its source and template over.
  simp [Registry.Compiling.add, called, fresh, compileTemplate, Shelves.compile, Shelves.put, put,
    Shelves.shelf, Shelf.nodes, whole, found, made, ownShelf, Bind.bind, Except.bind, Pure.pure,
    Except.pure, Except.map]

/-- The built-in sources compile one after another, each under a file name of its own. -/
theorem foldl_add_builtIn :
    builtIn.foldl (Registry.Compiling.add ownShelf) ⟨[[]], .ok []⟩ =
      ⟨builtInShelves, .ok builtInRegistry.entries⟩ := by
  -- One source after another, each under a name that is not on the shelf yet.
  obtain ⟨structMade, selectMade, insertMade, deleteMade⟩ := compile_builtIn
  obtain ⟨structName, selectName, insertName, deleteName, structFile, selectFile, insertFile,
    deleteFile⟩ := fileName_builtIn
  rw [builtIn, List.foldl_cons, add_of_compiled structName structFile rfl (by decide) structMade,
    List.foldl_cons, add_of_compiled selectName selectFile rfl (by decide) selectMade,
    List.foldl_cons, add_of_compiled insertName insertFile rfl (by decide) insertMade,
    List.foldl_cons, add_of_compiled deleteName deleteFile rfl (by decide) deleteMade,
    List.foldl_nil]
  rfl

/-- The generator of the built-in templates alone. -/
def builtInGenerator (formatter : Formatter) : Generator :=
  ⟨builtInRegistry, ⟨formatter, defaultEncoding⟩, builtInShelves⟩

/-- Without further templates a generator holds the built-in ones and the formatter it was given. -/
theorem create_builtIn (host : Host) (settings : Settings) (formatter : Formatter) :
    (create host settings (some formatter) []).result =
      .ok ⟨builtInGenerator formatter, settings⟩ := by
  have made := Registry.ofSources_of_compiled foldl_add_builtIn ofEntries_builtIn
  unfold create registry
  -- Only the outcome of compiling matters from here on, so the sources are put out of sight.
  generalize Registry.ofSources [[]] ownShelf builtIn = outcome at made ⊢
  subst made
  simp [builtInGenerator, Traced.andThen, Traced.report, Bind.bind, Pure.pure]

section

variable (table : String) (columns : List TextColumn) (package : Value) (imports : List String)

/-- The names that templates find for a table: its own values and the shared operations. -/
def tableScope (paths : List String) : Context :=
  textContext table columns package paths ++ helpers

/-- What each name stands for in the scope of a table. -/
theorem named_tableScope (paths : List String) :
    named (tableScope table columns package paths) "table_name" = .text table ∧
    named (tableScope table columns package paths) "columns" =
      .list (columns.map TextColumn.value) ∧
    named (tableScope table columns package paths) "package_name" = package ∧
    named (tableScope table columns package paths) "imports" = .list (paths.map .text) ∧
    named (tableScope table columns package paths) "struct_name" =
      .text (Naming.typeName table) ∧
    named (tableScope table columns package paths) "var_name" =
      .text (Naming.variableName table) ∧
    named (tableScope table columns package paths) "db_name" = .helper .tagName ∧
    named (tableScope table columns package paths) "select_param_names" =
      .helper .aliasedColumns :=
  ⟨rfl, rfl, rfl, rfl, rfl, rfl, rfl, rfl⟩

/-- A target is generated as the text that its nodes give among the values of the table. -/
theorem generate_of_tableScope {target file : String} {nodes : List Node}
    {text : List String → String}
    (found : builtInRegistry.get? (fileName target) = some ⟨file, nodes, ownShelf⟩)
    (passive : ∀ shelf : Shelf, shelf.Passive nodes)
    (rendered : ∀ insert paths,
      renderNodes insert (tableScope table columns package paths) nodes =
        .ok (text paths, tableScope table columns package paths)) :
    ∃ paths, IncreasingSetOf paths imports ∧
      ((builtInGenerator Formatter.unchanged).generate (.text target)
        (.table (.ofTexts table columns package imports))).result =
          .ok (text paths).toUTF8 := by
  -- The context is the one of the table, in which no name is reserved.
  obtain ⟨paths, set, described⟩ := context_ofTexts table columns package imports
  refine ⟨paths, set, ?_⟩
  have context : (Subject.table (.ofTexts table columns package imports)).context =
      .ok (textContext table columns package paths) := by
    rw [Subject.context, described]
  have unreserved :
      lookup? reservedName (textContext table columns package paths) = none := rfl
  -- Templates call their operations by names behind those of the table.
  have made : Template.text ⟨file, nodes, ownShelf⟩ builtInShelves
      (textContext table columns package paths) = .ok (text paths) :=
    text_of_renderNodes (passive _) unreserved (rendered _ paths)
  have generated := Generator.generate_of_text found context made
  rw [builtInGenerator, generated]

end

end Tablewright.Target
