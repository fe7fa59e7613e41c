import Tablewright.Proofs.Registry.Conservative
import Tablewright.Proofs.Target.ColumnNodes
import Tablewright.Proofs.Template.Reading

/-! What each built-in target depends on: the names it asks for, and parts of columns. -/

namespace Tablewright

/-- A value as it is, or a column of the same name, and of the same type where types matter. -/
inductive SameColumn (typed : Prop) : Value → Value → Prop where
  | same (value : Value) : SameColumn typed value value
  | column {name type type' nullable nullable' : Value} (types : typed → type' = type) :
    SameColumn typed (.column name type nullable) (.column name type' nullable')

section

variable {typed : Prop} {column column' : Value} (same : SameColumn typed column column')
include same

/-- Templates find the same name in such columns. -/
theorem SameColumn.member_name : column'.member "name" = column.member "name" := by
  cases same <;> rfl

/-- Helpers find the same name in such columns. -/
theorem SameColumn.columnName_eq : column'.columnName = column.columnName := by
  cases same <;> rfl

/-- Templates find the same type in such columns where types matter. -/
theorem SameColumn.member_type (matters : typed) :
    column'.member "type" = column.member "type" := by
  -- A column of its own kind has the type for a member, and the types are the same.
  cases same with
  | same => rfl
  | column types =>
    rw [types matters]
    rfl

/-- Columns of the same names and types have the same names. -/
theorem SameColumn.untyped : SameColumn False column column' := by
  -- What was said of the types is let go.
  cases same with
  | same => exact .same _
  | column => exact .column False.elim

end

/-- What reads elements alike reads lists of such elements alike. -/
theorem mapM_eq_of_forall₂ {related : α → α → Prop} {read : α → Except ε β}
    {elements elements' : List α} (pairs : List.Forall₂ related elements elements')
    (alike : ∀ element element', related element element' → read element' = read element) :
    elements'.mapM read = elements.mapM read := by
  -- The induction follows the pairs, each of which reads alike.
  induction pairs with
  | nil => rfl
  | cons first _ ih => rw [List.mapM_cons, List.mapM_cons, alike _ _ first, ih]

namespace Fragment

variable {typed : Prop} {columns columns' : List Value}
  (pairs : List.Forall₂ (SameColumn typed) columns columns')
include pairs

/-- The column list is the same for columns of the same names. -/
theorem columnNamesOf_sameColumns :
    columnNamesOf (.list columns') = columnNamesOf (.list columns) := by
  have names := mapM_eq_of_forall₂ pairs fun _ _ same => same.columnName_eq
  simp only [columnNamesOf, Value.elements, Bind.bind, Except.bind, Pure.pure, Except.pure, names]

/-- The aliased list is the same for columns of the same names. -/
theorem aliasedColumnsOf_sameColumns (table : Value) :
    aliasedColumnsOf table (.list columns') = aliasedColumnsOf table (.list columns) := by
  -- A column under its tag is told by its name alone.
  have aliases : columns'.mapM (aliasedOf table) = columns.mapM (aliasedOf table) := by
    refine mapM_eq_of_forall₂ pairs fun _ _ same => ?_
    rw [aliasedOf, aliasedOf, same.columnName_eq]
  simp only [aliasedColumnsOf, Value.elements, Bind.bind, Except.bind, Pure.pure, Except.pure,
    aliases]

end Fragment

namespace Target

open Template TableGenerator

/-- The names that every built-in target asks for. -/
def commonNames : List String := ["package_name", "struct_name", "table_name"]

/-- The names that each built-in target asks for. -/
def askedNames : List (String × List String) :=
  [("struct", commonNames ++ ["imports", "columns", "db_name"]),
    ("select", commonNames ++ ["columns", "select_param_names"]),
    ("insert", commonNames ++ ["var_name", "columns"]),
    ("delete", commonNames)]

/-- Each built-in target with the names it asks for. -/
theorem mem_askedNames :
    ("struct", commonNames ++ ["imports", "columns", "db_name"]) ∈ askedNames ∧
    ("select", commonNames ++ ["columns", "select_param_names"]) ∈ askedNames ∧
    ("insert", commonNames ++ ["var_name", "columns"]) ∈ askedNames ∧
    ("delete", commonNames) ∈ askedNames := by
  simp [askedNames]

/-- The nodes of the built-in targets ask for no other names. -/
theorem mem_of_asks (name : String) :
    (bodyAsks name structNodes = true →
      name ∈ commonNames ++ ["imports", "columns", "db_name"]) ∧
    (bodyAsks name selectNodes = true →
      name ∈ commonNames ++ ["columns", "select_param_names"]) ∧
    (bodyAsks name insertNodes = true → name ∈ commonNames ++ ["var_name", "columns"]) ∧
    (bodyAsks name deleteNodes = true → name ∈ commonNames) := by
  -- Inside a loop the names of its element and of the loop itself are not asked for outside.
  refine ⟨?_, ?_, ?_, ?_⟩
  all_goals
    intro asks
    simp only [structNodes, selectNodes, insertNodes, deleteNodes, openingNodes, importNodes,
      importBody, fieldBody, destinationBody, argumentBody, shown, shownField, columnName,
      List.cons_append, List.nil_append, bodyAsks, Node.asks, Node.gives, casesAsk, Expr.mentions,
      anyMentions, bodyMentions, Node.mentions, caseMentions, loopName, Bool.or_false,
      Bool.false_or, Bool.not_false, Bool.true_and, Bool.or_eq_true, Bool.and_eq_true, beq_iff_eq,
      bne_iff_ne] at asks
    -- What is left is a finite case analysis over the names that the nodes mention.
    simp only [commonNames, List.cons_append, List.nil_append, List.mem_cons]
    grind

section

variable {context : Context} {columns columns' : List Value} {typed : Prop}

/-- Whatever is called with a table and columns gives the same for columns of the same names. -/
theorem call_sameColumns (pairs : List.Forall₂ (SameColumn typed) columns columns')
    (operation table : Value) :
    call operation [table, .list columns'] = call operation [table, .list columns] := by
  -- Of all that a context may call by this name, only the helper itself reads columns.
  cases operation with
  | helper operation =>
    cases operation with
    | aliasedColumns =>
      simp only [call, applyHelper, onPair, Fragment.aliasedColumnsOf_sameColumns pairs]
    | tagName =>
      -- Columns are no text, so they are never appended to a table.
      simp only [call, applyHelper, onPair, Naming.tagNameOf]
      cases table.followedBy (String.singleton Naming.separator) <;> rfl
  | _ => rfl

/-- The text of the nodes of a target that reads no types is told by the names of the columns. -/
theorem text_sameNames (given : lookup? "columns" context = some (.list columns))
    (pairs : List.Forall₂ (SameColumn typed) columns columns') (shelf : Shelf) :
    shelf.text selectNodes (assign "columns" (.list columns') context) =
        shelf.text selectNodes context ∧
      shelf.text insertNodes (assign "columns" (.list columns') context) =
        shelf.text insertNodes context := by
  -- Both texts read the names in their loops, and the fragment of their own reads names too.
  have titled : SamePart "name" (SameColumn typed) := fun _ _ same => same.member_name
  obtain ⟨-, selectKeeps, insertKeeps, -⟩ := passive_builtIn shelf
  refine ⟨text_columnsApart given pairs selectKeeps fun apart => ?_,
    text_columnsApart given pairs insertKeeps fun apart => ?_⟩
  · refine apart.abreast_selectNodes Lasting.sameUpTo titled (.of_eq ?_)
    simp only [evalIn_call, Expr.evalIn, evalAllIn, apart.before, apart.after,
      apart.others "table_name" (by decide), apart.others "select_param_names" (by decide),
      Bind.bind, Except.bind, Pure.pure, Except.pure, call_sameColumns pairs]
  · refine apart.abreast_insertNodes Lasting.sameUpTo titled (.of_eq ?_)
    simp only [evalIn_filter, Expr.evalIn, evalAllIn, apart.before, apart.after, applyFilter,
      Filter.ofName?, Filter.apply, Fragment.columnNamesOf_sameColumns pairs, Bind.bind,
      Except.bind, Pure.pure, Except.pure]

/-- The text of a type is told by the names and the types of the columns. -/
theorem text_sameTypes (given : lookup? "columns" context = some (.list columns))
    (pairs : List.Forall₂ (SameColumn True) columns columns') (shelf : Shelf) :
    shelf.text structNodes (assign "columns" (.list columns') context) =
      shelf.text structNodes context :=
  text_columnsApart given pairs (passive_builtIn shelf).1 fun apart =>
    apart.abreast_structNodes Lasting.sameUpTo (fun _ _ same => same.member_name)
      fun _ _ same => same.member_type trivial

end

/-- A context made of a table holds its parts, its imports in order and its derived names. -/
theorem context_eq_ok {data : TableData} {context : Context} (made : data.context = .ok context) :
    ∃ columns imports structName varName,
      data.columns.elements = .ok columns ∧
      (data.imports.elements >>= fun paths => distinct paths >>= increasing) = .ok imports ∧
      Naming.typeNameOf data.tableName = .ok structName ∧
      Naming.variableNameOf data.tableName = .ok varName ∧
      context = [("table_name", data.tableName), ("columns", .list columns),
        ("package_name", data.packageName), ("imports", .list imports),
        ("struct_name", .text structName), ("var_name", .text varName)] := by
  -- The context is made step by step, and every step has to succeed.
  obtain ⟨columns, listed, rest⟩ := exists_of_bind_eq_ok made
  obtain ⟨paths, read, rest⟩ := exists_of_bind_eq_ok rest
  obtain ⟨kept, reduced, rest⟩ := exists_of_bind_eq_ok rest
  obtain ⟨imports, sorted, rest⟩ := exists_of_bind_eq_ok rest
  obtain ⟨structName, typed, rest⟩ := exists_of_bind_eq_ok rest
  obtain ⟨varName, variabled, rest⟩ := exists_of_bind_eq_ok rest
  refine ⟨columns, imports, structName, varName, listed, ?_, typed, variabled,
    (Except.ok.inj rest).symm⟩
  -- The imports are made distinct and put in order in two steps, which count as one.
  rw [read]
  change (distinct paths >>= increasing) = _
  rw [reduced]
  exact sorted

/-- Two descriptions of one table, whose columns and imports may differ. -/
structure SameTable (data data' : TableData) (context context' : Context) : Prop where
  before : data.context = .ok context
  after : data'.context = .ok context'
  tables : data'.tableName = data.tableName
  packages : data'.packageName = data.packageName

section

variable {data data' : TableData} {context context' : Context}
  (table : SameTable data data' context context')
include table

/-- No name is reserved in the contexts of a table. -/
theorem SameTable.unreserved :
    lookup? reservedName context = none ∧ lookup? reservedName context' = none := by
  -- The names in the context of a table are known, and none of them is reserved.
  obtain ⟨_, _, _, _, -, -, -, -, rfl⟩ := context_eq_ok table.before
  obtain ⟨_, _, _, _, -, -, -, -, rfl⟩ := context_eq_ok table.after
  exact ⟨rfl, rfl⟩

/-- All values but the columns and the imports are the same. -/
theorem SameTable.lookup?_eq {name : String} (noColumns : name ≠ "columns")
    (noImports : name ≠ "imports") : lookup? name context' = lookup? name context := by
  -- The derived names come from the one name of the table.
  obtain ⟨_, _, type, var, -, -, typed, variabled, rfl⟩ := context_eq_ok table.before
  obtain ⟨_, _, type', var', -, -, typed', variabled', rfl⟩ := context_eq_ok table.after
  rw [table.tables, typed] at typed'
  rw [table.tables, variabled] at variabled'
  obtain rfl := Except.ok.inj typed'
  obtain rfl := Except.ok.inj variabled'
  -- The other entries are the table and the package, which both contexts share.
  simp [lookup?, table.tables, table.packages, Ne.symm noColumns, Ne.symm noImports]

/-- The columns are what the description of the table holds. -/
theorem SameTable.lookup?_columns :
    (∀ columns, data.columns.elements = .ok columns →
      lookup? "columns" context = some (.list columns)) ∧
    ∀ columns, data'.columns.elements = .ok columns →
      lookup? "columns" context' = some (.list columns) := by
  -- The columns go into the context as they are listed.
  obtain ⟨_, _, _, _, listed, -, -, -, rfl⟩ := context_eq_ok table.before
  obtain ⟨_, _, _, _, listed', -, -, -, rfl⟩ := context_eq_ok table.after
  constructor
  · intro columns given
    obtain rfl := Except.ok.inj (listed.symm.trans given)
    rfl
  · intro columns given
    obtain rfl := Except.ok.inj (listed'.symm.trans given)
    rfl

/-- The same imports are the same set in order. -/
theorem SameTable.lookup?_imports (same : data'.imports = data.imports) :
    lookup? "imports" context' = lookup? "imports" context := by
  -- One set of imports is put in one order.
  obtain ⟨_, _, _, _, -, sorted, -, -, rfl⟩ := context_eq_ok table.before
  obtain ⟨_, _, _, _, -, sorted', -, -, rfl⟩ := context_eq_ok table.after
  rw [same, sorted] at sorted'
  obtain rfl := Except.ok.inj sorted'
  rfl

/-- With the columns of the one description put in, the other context is the same up to imports. -/
theorem SameTable.lookup?_assign {columns : List Value}
    (listed : data'.columns.elements = .ok columns) {name : String}
    (imports : name = "imports" → data'.imports = data.imports) :
    lookup? name context' = lookup? name (assign "columns" (.list columns) context) := by
  -- The columns are put in, the imports are the same where they count, and all else is shared.
  by_cases hit : name = "columns"
  · subst hit
    rw [lookup?_assign_self, table.lookup?_columns.2 columns listed]
  · rw [lookup?_assign_of_ne hit]
    by_cases imported : name = "imports"
    · subst imported
      exact table.lookup?_imports (imports rfl)
    · exact table.lookup?_eq hit imported

end

/-- Every generator gives a built-in target the text of its nodes and goes on from that alone. -/
theorem generate_eq_of_text {host : Host} {settings : Settings} {formatter : Option Formatter}
    {extra : Sources} {maker : TableGenerator}
    (made : (create host settings formatter extra).result = .ok maker)
    {target file : String} {nodes : List Node} (builtIn : target ∈ defaultTargets)
    (found : builtInRegistry.get? (fileName target) = some ⟨file, nodes, ownShelf⟩)
    {context context' : Context}
    (same : ∀ shelf : Shelf, shelf.text nodes context' = shelf.text nodes context) :
    maker.generator.generate (.text target) (.values context') =
      maker.generator.generate (.text target) (.values context) := by
  -- Further templates do not matter, so the registry may be taken to be the built-in one.
  obtain ⟨plain, plainMade, alike⟩ := generate_builtIn_of_create made
  obtain ⟨registry, result, rfl⟩ := create_eq_ok_iff.mp plainMade
  obtain rfl : builtInRegistry = registry := Except.ok.inj (registry_nil.2.symm.trans result)
  rw [alike target builtIn, alike target builtIn]
  exact generate_congr found (same _)

section

variable {host : Host} {settings : Settings} {formatter : Option Formatter} {extra : Sources}
  {maker : TableGenerator} (made : (create host settings formatter extra).result = .ok maker)
include made

/-- A built-in target is the same among values that agree on the names it asks for. -/
theorem generate_of_agree {target : String} {names : List String}
    (asked : (target, names) ∈ askedNames) {context context' : Context}
    (reserved : lookup? reservedName context' = lookup? reservedName context)
    (agree : ∀ name ∈ names, lookup? name context' = lookup? name context) :
    maker.generator.generate (.text target) (.values context') =
      maker.generator.generate (.text target) (.values context) := by
  obtain ⟨structFound, selectFound, insertFound, deleteFound⟩ := get?_builtIn
  obtain ⟨structClosed, selectClosed, insertClosed, deleteClosed⟩ := not_inserts_builtIn
  obtain ⟨structKeeps, selectKeeps, insertKeeps, deleteKeeps⟩ := not_sends_builtIn
  -- A template that asks for none but these names has one text in both contexts.
  have alike : ∀ {target file nodes}, target ∈ defaultTargets → bodySends nodes = false →
      anyInserts nodes = false →
      builtInRegistry.get? (fileName target) = some ⟨file, nodes, ownShelf⟩ →
      (∀ name, bodyAsks name nodes = true → name ∈ names) →
      maker.generator.generate (.text target) (.values context') =
        maker.generator.generate (.text target) (.values context) := by
    intro target file nodes builtIn unsent closed found within
    exact generate_eq_of_text made builtIn found fun shelf =>
      Shelf.text_congr unsent closed shelf reserved fun name asks => agree name (within name asks)
  simp only [askedNames, List.mem_cons, Prod.mk.injEq, List.not_mem_nil, or_false] at asked
  rcases asked with ⟨rfl, rfl⟩ | ⟨rfl, rfl⟩ | ⟨rfl, rfl⟩ | ⟨rfl, rfl⟩
  · exact alike (by decide) structKeeps structClosed structFound fun name => (mem_of_asks name).1
  · exact alike (by decide) selectKeeps selectClosed selectFound fun name => (mem_of_asks name).2.1
  · exact alike (by decide) insertKeeps insertClosed insertFound
      fun name => (mem_of_asks name).2.2.1
  · exact alike (by decide) deleteKeeps deleteClosed deleteFound
      fun name => (mem_of_asks name).2.2.2

variable {data data' : TableData} {context context' : Context}
  (table : SameTable data data' context context')
include table

/-- A function that deletes a row is told by the names of the table and the package. -/
theorem generate_delete_sameTable :
    maker.generator.generate (.text "delete") (.values context') =
      maker.generator.generate (.text "delete") (.values context) := by
  -- The template asks for the three names that all targets ask for.
  have agree : ∀ name ∈ commonNames, lookup? name context' = lookup? name context := by
    simp only [commonNames, List.forall_mem_cons]
    exact ⟨table.lookup?_eq (by decide) (by decide), table.lookup?_eq (by decide) (by decide),
      table.lookup?_eq (by decide) (by decide), by simp⟩
  refine generate_of_agree made mem_askedNames.2.2.2 ?_ agree
  rw [table.unreserved.1, table.unreserved.2]

variable {columns columns' : List Value}

/-- A target is the same when it is for the new columns, and when it asks for no other imports. -/
theorem generate_sameTable (listed' : data'.columns.elements = .ok columns')
    {target file : String} {nodes : List Node} {names : List String}
    (asked : (target, names) ∈ askedNames) (builtIn : target ∈ defaultTargets)
    (found : builtInRegistry.get? (fileName target) = some ⟨file, nodes, ownShelf⟩)
    (imports : "imports" ∈ names → data'.imports = data.imports)
    (text : ∀ shelf : Shelf, shelf.text nodes (assign "columns" (.list columns') context) =
      shelf.text nodes context) :
    maker.generator.generate (.text target) (.values context') =
      maker.generator.generate (.text target) (.values context) := by
  -- The new columns are put in first, which leaves the imports as the only difference.
  refine Eq.trans (generate_of_agree made asked ?_ ?_) (generate_eq_of_text made builtIn found text)
  · rw [table.unreserved.2, lookup?_assign_of_ne (by decide), table.unreserved.1]
  · intro name member
    exact table.lookup?_assign listed' fun hit => imports (hit ▸ member)

variable (listed : data.columns.elements = .ok columns)
  (listed' : data'.columns.elements = .ok columns')
include listed listed'

/-- Functions that read or add rows are told by the names of the columns. -/
theorem generate_sameNames (pairs : List.Forall₂ (SameColumn False) columns columns') :
    ∀ target ∈ ["select", "insert"],
      maker.generator.generate (.text target) (.values context') =
        maker.generator.generate (.text target) (.values context) := by
  -- Both targets read no types, so it does not matter which these are.
  obtain ⟨-, selectFound, insertFound, -⟩ := get?_builtIn
  obtain ⟨-, selectAsked, insertAsked, -⟩ := mem_askedNames
  have given := table.lookup?_columns.1 columns listed
  simp only [List.forall_mem_cons]
  refine ⟨?_, ?_, by simp⟩
  · -- Neither of the two targets reads the imports.
    exact generate_sameTable made table listed' selectAsked (by decide) selectFound
      (by simp [commonNames]) fun shelf => (text_sameNames given pairs shelf).1
  · exact generate_sameTable made table listed' insertAsked (by decide) insertFound
      (by simp [commonNames]) fun shelf => (text_sameNames given pairs shelf).2

/-- All targets are told by the names and the types of the columns, and by the imports. -/
theorem generate_sameTypes (pairs : List.Forall₂ (SameColumn True) columns columns')
    (imports : data'.imports = data.imports) :
    ∀ target ∈ ["struct", "select", "insert", "delete"],
      maker.generator.generate (.text target) (.values context') =
        maker.generator.generate (.text target) (.values context) := by
  -- The type is the only target that asks for more than the names.
  obtain ⟨structFound, -, -, -⟩ := get?_builtIn
  obtain ⟨structAsked, -, -, -⟩ := mem_askedNames
  have given := table.lookup?_columns.1 columns listed
  have others := generate_sameNames made table listed listed'
    (pairs.imp fun _ _ same => same.untyped)
  have structSame := generate_sameTable made table listed' structAsked (by decide) structFound
    (fun _ => imports) fun shelf => text_sameTypes given pairs shelf
  simp only [List.forall_mem_cons]
  -- Deleting reads no column at all.
  exact ⟨structSame, others "select" (by simp), others "insert" (by simp),
    generate_delete_sameTable made table, by simp⟩

end

/-- A built-in target depends on no values but those of the names it asks for; and of a table it
depends on types and imports only where it declares them, on nullability nowhere. -/
theorem generate_depends_on_asked {host : Host} {settings : Settings}
    {formatter : Option Formatter} {extra : Sources} {maker : TableGenerator}
    (made : (create host settings formatter extra).result = .ok maker) :
    (∀ target names, (target, names) ∈ askedNames → ∀ context context' : Context,
      lookup? "self" context = none → lookup? "self" context' = none →
      (∀ name ∈ names, lookup? name context' = lookup? name context) →
      maker.generator.generate (.text target) (.values context') =
        maker.generator.generate (.text target) (.values context)) ∧
    ∀ (data data' : TableData) (context context' : Context) (columns columns' : List Value),
      data.context = .ok context → data'.context = .ok context' →
      data'.tableName = data.tableName → data'.packageName = data.packageName →
      data.columns.elements = .ok columns → data'.columns.elements = .ok columns' →
      (List.Forall₂ (SameColumn True) columns columns' → data'.imports = data.imports →
        ∀ target ∈ ["struct", "select", "insert", "delete"],
          maker.generator.generate (.text target) (.values context') =
            maker.generator.generate (.text target) (.values context)) ∧
      (List.Forall₂ (SameColumn False) columns columns' →
        ∀ target ∈ ["select", "insert"],
          maker.generator.generate (.text target) (.values context') =
            maker.generator.generate (.text target) (.values context)) ∧
      maker.generator.generate (.text "delete") (.values context') =
        maker.generator.generate (.text "delete") (.values context) := by
  -- The first part is about any values, and the second one about those of two tables.
  constructor
  · intro target names asked context context' free free' agree
    exact generate_of_agree made asked (free'.trans free.symm) agree
  · intro data data' context context' columns columns' before after tables packages listed listed'
    have table : SameTable data data' context context' := ⟨before, after, tables, packages⟩
    exact ⟨generate_sameTypes made table listed listed',
      generate_sameNames made table listed listed', generate_delete_sameTable made table⟩

/-- The description of a table with one column. -/
def rolesData (type nullable : Value) (imports : List Value) : TableData :=
  ⟨.text "roles", .list [.column (.text "id") type nullable], .text "models", .list imports⟩

/-- The values of that table. -/
def rolesValues (type nullable : Value) (imports : List Value) : Context :=
  [("table_name", .text "roles"), ("columns", .list [.column (.text "id") type nullable]),
    ("package_name", .text "models"), ("imports", .list imports), ("struct_name", .text "Roles"),
    ("var_name", .text "roles")]

/-- A row is deleted as before without columns, read as before with another type and an import, and
declared as before with a value that may be null. -/
theorem generate_roles_as_before :
    ∃ maker,
      (create plainHost Settings.default (some Formatter.unchanged) []).result = .ok maker ∧
      (maker.generator.generate (.text "delete")
          (.values [("table_name", .text "roles"), ("package_name", .text "models"),
            ("struct_name", .text "Roles"), ("colour", .int 7)]) =
        maker.generator.generate (.text "delete")
          (.values (rolesValues (.text "int") (.bool false) []))) ∧
      (maker.generator.generate (.text "select")
          (.values (rolesValues (.text "string") (.bool true) [.text "fmt"])) =
        maker.generator.generate (.text "select")
          (.values (rolesValues (.text "int") (.bool false) []))) ∧
      (maker.generator.generate (.text "struct")
          (.values (rolesValues (.text "int") (.bool true) [])) =
        maker.generator.generate (.text "struct")
          (.values (rolesValues (.text "int") (.bool false) []))) := by
  -- One generator, and each of the three parts is a case of the general statement.
  have made := create_builtIn plainHost Settings.default Formatter.unchanged
  obtain ⟨values, tables⟩ := generate_depends_on_asked made
  have plain : (rolesData (.text "int") (.bool false) []).context =
      .ok (rolesValues (.text "int") (.bool false) []) := rfl
  have nullable : (rolesData (.text "int") (.bool true) []).context =
      .ok (rolesValues (.text "int") (.bool true) []) := rfl
  have other : (rolesData (.text "string") (.bool true) [.text "fmt"]).context =
      .ok (rolesValues (.text "string") (.bool true) [.text "fmt"]) := rfl
  refine ⟨_, made, ?_, ?_, ?_⟩
  · -- The columns are no names that deleting asks for.
    refine values "delete" commonNames (by simp [askedNames]) _ _ rfl rfl ?_
    simp only [commonNames, List.forall_mem_cons]
    exact ⟨rfl, rfl, rfl, by simp⟩
  · -- The column keeps its name, which is all that reading asks for.
    obtain ⟨-, named, -⟩ := tables _ _ _ _ _ _ plain other rfl rfl rfl rfl
    exact named (.cons (.column False.elim) .nil) "select" (by simp)
  · -- Whether a value may be null is asked for by none of them.
    obtain ⟨declared, -, -⟩ := tables _ _ _ _ _ _ plain nullable rfl rfl rfl rfl
    exact declared (.cons (.column fun _ => rfl) .nil) rfl "struct" (by simp)

end Target

end Tablewright
