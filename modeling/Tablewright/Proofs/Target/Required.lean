import Tablewright.Proofs.Generation.Ending
import Tablewright.Proofs.Target.Dependence
import Tablewright.Proofs.Target.InsertFile
import Tablewright.Proofs.Target.StructFile
import Tablewright.Proofs.Template.Missing

/-! The values that the built-in targets require, and where a run stops when one is missing. -/

namespace Tablewright.Target

open Template TableGenerator

/-- The names that each built-in target requires, in the order in which it comes upon them. -/
def requiredNames : List (String × List String) :=
  [("struct", ["package_name", "imports", "struct_name", "table_name", "columns"]),
    ("select", ["package_name", "struct_name", "table_name", "columns"]),
    ("insert", ["package_name", "struct_name", "table_name", "var_name", "columns"]),
    ("delete", ["package_name", "struct_name", "table_name"])]

/-- The form that the value of a required name has to have. -/
def HasForm (name : String) (value : Value) : Prop :=
  if name = "imports" then ∃ paths : List String, value = .list (paths.map .text)
  else if name = "columns" then
    ∃ columns : List TextColumn, value = .list (columns.map TextColumn.value)
  else ∃ text, value = .text text

/-- Those of some names that have a value have one of their form. -/
def Formed (names : List String) (context : Context) : Prop :=
  ∀ name ∈ names, ∀ value, lookup? name context = some value → HasForm name value

/-- Without a missing name, every name stands for a value of its form. -/
theorem Formed.hasForm_named {names : List String} {scope : Context} (formed : Formed names scope)
    (whole : firstMissing? names scope = none) (name : String) (member : name ∈ names) :
    HasForm name (named scope name) := by
  -- A name that is not missing stands for its value, and that has the form of the name.
  obtain ⟨value, found⟩ := firstMissing?_eq_none_iff.mp whole name member
  rw [named_of_found found]
  exact formed name member value found

/-- The package, the type and the table are texts where nothing is missing. -/
theorem Formed.common {names : List String} {scope : Context} (formed : Formed names scope)
    (whole : firstMissing? names scope = none) (within : ∀ name ∈ commonNames, name ∈ names) :
    ∃ package struct table, named scope "package_name" = .text package ∧
      named scope "struct_name" = .text struct ∧ named scope "table_name" = .text table := by
  -- All three forms are those of texts.
  obtain ⟨package, packaged⟩ :=
    formed.hasForm_named whole "package_name" (within _ (by simp [commonNames]))
  obtain ⟨struct, structured⟩ :=
    formed.hasForm_named whole "struct_name" (within _ (by simp [commonNames]))
  obtain ⟨table, tabled⟩ :=
    formed.hasForm_named whole "table_name" (within _ (by simp [commonNames]))
  exact ⟨package, struct, table, packaged, structured, tabled⟩

/-- Nodes require names in an order: they stop at the first one missing, and else give a text. -/
structure Require (insert : Insert) (scope : Context) (names : List String) (nodes : List Node) :
    Prop where
  stops : StopsAtFirst scope names (renderNodes insert scope nodes)
  gives : firstMissing? names scope = none →
    ∃ text, renderNodes insert scope nodes = .ok (text, scope)

section

variable {insert : Insert} {scope : Context} {names : List String} {rest : List Node}

/-- A name that is printed has to have a value, and the run goes on with its text. -/
theorem stopsAtFirst_shown {name : String}
    (textual : ∀ value, lookup? name scope = some value → ∃ text, value = .text text)
    (known : ∀ text, named scope name = .text text →
      StopsAtFirst scope names (renderNodes insert scope rest)) :
    StopsAtFirst scope (name :: names) (renderNodes insert scope (shown name :: rest)) := by
  -- A missing name stops the node, and a text is put in front of the rest.
  refine stopsAtFirst_node ?_ ?_
  · intro missing
    exact render_print_missing (eval_named missing)
  · intro value found
    obtain ⟨text, same⟩ := textual value found
    subst same
    have given := named_of_found found
    rw [renderNodes_shown given, stopsAtFirst_prepend]
    exact known text given

/-- All functions are introduced by the package, the type and the table, in this order. -/
theorem stopsAtFirst_introduced {before between : String}
    (formed : Formed ("package_name" :: "struct_name" :: "table_name" :: names) scope)
    (known : ∀ package struct table, named scope "package_name" = .text package →
      named scope "struct_name" = .text struct → named scope "table_name" = .text table →
        StopsAtFirst scope names (renderNodes insert scope rest)) :
    StopsAtFirst scope ("package_name" :: "struct_name" :: "table_name" :: names)
      (renderNodes insert scope (openingNodes ++ .text before :: shown "struct_name" ::
        .text between :: shown "table_name" :: rest)) := by
  -- The three names are come upon in order, with fixed texts between them.
  simp only [openingNodes, List.cons_append, List.nil_append, renderNodes_text,
    stopsAtFirst_prepend]
  refine stopsAtFirst_shown (formed _ (by simp)) fun package packaged => ?_
  simp only [renderNodes_text, stopsAtFirst_prepend]
  refine stopsAtFirst_shown (formed _ (by simp)) fun struct structured => ?_
  simp only [renderNodes_text, stopsAtFirst_prepend]
  refine stopsAtFirst_shown (formed _ (by simp)) fun table tabled => ?_
  exact known package struct table packaged structured tabled

/-- The imports have to have a value even where there are none of them. -/
theorem stopsAtFirst_imports
    (listed : ∀ value, lookup? "imports" scope = some value →
      ∃ paths : List String, value = .list (paths.map .text))
    (known : StopsAtFirst scope names (renderNodes insert scope rest)) :
    StopsAtFirst scope ("imports" :: names)
      (renderNodes insert scope (.branch [(.named "imports", importNodes)] [] :: rest)) := by
  -- The imports are a condition before they are gone over, and a missing value is none.
  refine stopsAtFirst_node ?_ ?_
  · intro missing
    exact render_branch_missing (eval_named missing)
  · intro value found
    obtain ⟨paths, same⟩ := listed value found
    subst same
    -- A list of imports gives its lines, be they any or none.
    rw [renderNodes_imports (named_of_found found), stopsAtFirst_prepend]
    exact known

/-- What a loop goes over is the last name that has to have a value. -/
theorem stopsAtFirst_each {name element : String} {body : List Node} :
    StopsAtFirst scope [name]
      (renderNodes insert scope (.each element (.named name) body [] :: rest)) := by
  -- Nothing behind the loop asks for a name that was not asked for.
  refine stopsAtFirst_node ?_ ?_
  · intro missing
    exact render_each_missing (eval_named missing)
  · intro _ _
    exact stopsAtFirst_nil

/-- The type of a row requires the imports before the name of the type. -/
theorem require_structNodes
    (formed : Formed ["package_name", "imports", "struct_name", "table_name", "columns"] scope)
    (operation : named scope "db_name" = .helper .tagName) :
    Require insert scope ["package_name", "imports", "struct_name", "table_name", "columns"]
      structNodes where
  stops := by
    -- Each name is come upon in its turn, and every later use of it finds its text.
    simp only [structNodes, openingNodes, List.cons_append, List.nil_append, renderNodes_text,
      stopsAtFirst_prepend]
    refine stopsAtFirst_shown (formed _ (by simp)) fun package packaged => ?_
    simp only [renderNodes_text, stopsAtFirst_prepend]
    refine stopsAtFirst_imports (formed _ (by simp)) ?_
    simp only [renderNodes_text, stopsAtFirst_prepend]
    refine stopsAtFirst_shown (formed _ (by simp)) fun struct structured => ?_
    simp only [renderNodes_text, stopsAtFirst_prepend]
    refine stopsAtFirst_shown (formed _ (by simp)) fun table tabled => ?_
    simp only [renderNodes_text, renderNodes_shown structured, stopsAtFirst_prepend]
    exact stopsAtFirst_each
  gives := by
    intro whole
    obtain ⟨package, struct, table, packaged, structured, tabled⟩ := formed.common whole (by decide)
    -- With all values there, the nodes give the file that they were proved to give.
    obtain ⟨paths, imported⟩ := formed.hasForm_named whole "imports" (by simp)
    obtain ⟨columns, listed⟩ := formed.hasForm_named whole "columns" (by simp)
    exact ⟨_, renderNodes_structNodes packaged structured tabled listed imported operation⟩

/-- A function that reads every row requires the columns where it names them in its statement. -/
theorem require_selectNodes
    (formed : Formed ["package_name", "struct_name", "table_name", "columns"] scope)
    (operation : named scope "select_param_names" = .helper .aliasedColumns) :
    Require insert scope ["package_name", "struct_name", "table_name", "columns"]
      selectNodes where
  stops := by
    unfold selectNodes
    refine stopsAtFirst_introduced formed fun package struct table packaged structured tabled => ?_
    simp only [renderNodes_text, renderNodes_shown structured, stopsAtFirst_prepend]
    -- The columns are looked at by the operation that puts them under their tags.
    refine stopsAtFirst_node ?_ fun _ _ => stopsAtFirst_nil
    intro missing
    exact render_print_stopped (eval_call_stopped (eval_named operation) (eval_named tabled)
      (eval_named missing) rfl)
  gives := by
    intro whole
    obtain ⟨package, struct, table, packaged, structured, tabled⟩ := formed.common whole (by decide)
    -- With all values there, the nodes give the file that they were proved to give.
    obtain ⟨columns, listed⟩ := formed.hasForm_named whole "columns" (by simp)
    exact ⟨_, renderNodes_selectNodes packaged structured tabled listed operation⟩

/-- A function that adds a row requires the name of its parameter before the columns. -/
theorem require_insertNodes
    (formed : Formed ["package_name", "struct_name", "table_name", "var_name", "columns"] scope) :
    Require insert scope ["package_name", "struct_name", "table_name", "var_name", "columns"]
      insertNodes where
  -- The first three names are those of every function, and then comes the parameter.
  stops := by
    unfold insertNodes
    refine stopsAtFirst_introduced formed fun package struct table packaged structured tabled => ?_
    simp only [renderNodes_text, renderNodes_shown structured, stopsAtFirst_prepend]
    refine stopsAtFirst_shown (formed _ (by simp)) fun holder given => ?_
    simp only [renderNodes_text, renderNodes_shown packaged, renderNodes_shown structured,
      renderNodes_shown tabled, renderNodes_shown given, stopsAtFirst_prepend]
    -- The columns are looked at by the filter that lists their names.
    refine stopsAtFirst_node ?_ fun _ _ => stopsAtFirst_nil
    intro missing
    exact render_print_stopped (eval_filter_stopped (eval_named missing) rfl rfl)
  gives := by
    intro whole
    obtain ⟨package, struct, table, packaged, structured, tabled⟩ := formed.common whole (by decide)
    -- With all values there, the nodes give the file that they were proved to give.
    obtain ⟨holder, given⟩ := formed.hasForm_named whole "var_name" (by simp)
    obtain ⟨columns, listed⟩ := formed.hasForm_named whole "columns" (by simp)
    exact ⟨_, renderNodes_insertNodes given packaged structured tabled listed⟩

/-- A function that deletes a row requires no columns. -/
theorem require_deleteNodes
    (formed : Formed ["package_name", "struct_name", "table_name"] scope) :
    Require insert scope ["package_name", "struct_name", "table_name"] deleteNodes where
  -- A function asks for nothing but what introduces it.
  stops := by
    unfold deleteNodes
    exact stopsAtFirst_introduced formed fun _ _ _ _ _ _ => stopsAtFirst_nil
  gives := by
    intro whole
    obtain ⟨package, struct, table, packaged, structured, tabled⟩ := formed.common whole (by decide)
    -- Texts and three names are all that there is.
    simp only [deleteNodes, openingNodes, List.cons_append, List.nil_append, renderNodes_text,
      renderNodes_shown packaged, renderNodes_shown structured, renderNodes_shown tabled,
      renderNodes_nil, prepend_ok]
    exact ⟨_, rfl⟩

end

/-- Each built-in target has a template that calls no methods, and whose nodes require the names of
the target. -/
theorem require_builtIn {target : String} {names : List String}
    (required : (target, names) ∈ requiredNames) :
    target ∈ defaultTargets ∧ (∀ name ∈ names, lookup? name helpers = none) ∧
      ∃ file nodes, builtInRegistry.get? (fileName target) = some ⟨file, nodes, ownShelf⟩ ∧
        (∀ shelf : Shelf, shelf.Passive nodes) ∧
        ∀ insert scope, Formed names scope → named scope "db_name" = .helper .tagName →
          named scope "select_param_names" = .helper .aliasedColumns →
            Require insert scope names nodes := by
  -- Each target needs at most one of the operations under its own name.
  obtain ⟨structFound, selectFound, insertFound, deleteFound⟩ := get?_builtIn
  simp only [requiredNames, List.mem_cons, Prod.mk.injEq, List.not_mem_nil, or_false] at required
  obtain ⟨rfl, rfl⟩ | ⟨rfl, rfl⟩ | ⟨rfl, rfl⟩ | ⟨rfl, rfl⟩ := required
  · exact ⟨by decide, by decide, _, _, structFound,
      fun shelf => (passive_builtIn shelf).1,
      fun _ _ formed tag _ => require_structNodes formed tag⟩
  · exact ⟨by decide, by decide, _, _, selectFound,
      fun shelf => (passive_builtIn shelf).2.1,
      fun _ _ formed _ aliases => require_selectNodes formed aliases⟩
  · exact ⟨by decide, by decide, _, _, insertFound,
      fun shelf => (passive_builtIn shelf).2.2.1,
      fun _ _ formed _ _ => require_insertNodes formed⟩
  · exact ⟨by decide, by decide, _, _, deleteFound,
      fun shelf => (passive_builtIn shelf).2.2.2,
      fun _ _ formed _ _ => require_deleteNodes formed⟩

/-- What is said of a missing value names it as it is. -/
theorem message_of_required {target : String} {names : List String}
    (required : (target, names) ∈ requiredNames) {name : String} (member : name ∈ names) :
    (unbound name).message = "'" ++ name ++ "' is undefined" := by
  -- No required name has a character that would be written in another way.
  have plain : ∀ entry ∈ requiredNames, ∀ name ∈ entry.2,
      (unbound name).message = "'" ++ name ++ "' is undefined" := by decide
  exact plain (target, names) required name member

/-- Among values that leave the names of operations alone, a built-in template has no text exactly
when a value that it requires is missing, and it stops at the first of them. -/
theorem text_of_required {target : String} {names : List String}
    (required : (target, names) ∈ requiredNames) {context : Context}
    (unreserved : lookup? "self" context = none) (ownTags : lookup? "db_name" context = none)
    (ownAliases : lookup? "select_param_names" context = none) (formed : Formed names context)
    (shelves : Shelves) :
    ∃ template, builtInRegistry.get? (fileName target) = some template ∧
      (∀ name, firstMissing? names context = some name →
        template.text shelves context = .error (unbound name)) ∧
      (firstMissing? names context = none →
        ∃ text, template.text shelves context = .ok text) := by
  -- Which template the target has, and what its nodes require, is known.
  obtain ⟨-, apart, file, nodes, found, passive, require⟩ := require_builtIn required
  -- The operations of templates come behind the values, and hide none of them.
  have tags : named (context ++ helpers) "db_name" = .helper .tagName := by
    rw [named, Medium.named, lookup?_append, ownTags]
    rfl
  have aliases : named (context ++ helpers) "select_param_names" = .helper .aliasedColumns := by
    rw [named, Medium.named, lookup?_append, ownAliases]
    rfl
  -- No required name is one of an operation, so the values are those of the context.
  have formed' : Formed names (context ++ helpers) := by
    intro name member value given
    rw [lookup?_append, apart name member, Option.or_none] at given
    exact formed name member value given
  have missing : firstMissing? names (context ++ helpers) = firstMissing? names context :=
    firstMissing?_append apart
  refine ⟨⟨file, nodes, ownShelf⟩, found, ?_, ?_⟩
  · -- The nodes stop at the first missing name, and so does the text.
    intro name first
    exact Template.text_of_stopped (passive _) unreserved
      ((require _ _ formed' tags aliases).stops name (missing.trans first))
  · -- Where nothing is missing the nodes give a text.
    intro whole
    obtain ⟨text, rendered⟩ := (require _ _ formed' tags aliases).gives (missing.trans whole)
    exact ⟨text, Template.text_of_renderNodes (passive _) unreserved rendered⟩

/-- A built-in target stops at the first of the values it requires that is missing, before any
formatter is called; and where none is missing there is source. -/
theorem generate_stops_at_first_missing {host : Host} {settings : Settings}
    {formatter : Option Formatter} {extra : Sources} {maker : TableGenerator}
    (made : (create host settings formatter extra).result = .ok maker) {target : String}
    {names : List String} (required : (target, names) ∈ requiredNames) {context : Context}
    (unreserved : lookup? "self" context = none) (ownTags : lookup? "db_name" context = none)
    (ownAliases : lookup? "select_param_names" context = none) (formed : Formed names context) :
    let outcome := maker.generator.generate (.text target) (.values context)
    match firstMissing? names context with
    | some name =>
      ∃ cause, outcome.result = .error (.target target (.render (.execution cause))) ∧
        cause = .value (.missing (.unbound name)) ∧
        cause.message = "'" ++ name ++ "' is undefined" ∧ outcome.calls = 0
    | none => formatter = some Formatter.unchanged → ∃ output, outcome.result = .ok output := by
  intro outcome
  -- Further templates do not matter, so the registry may be taken to be the built-in one.
  obtain ⟨plain, plainMade, alike⟩ := generate_builtIn_of_create made
  obtain ⟨registry, result, rfl⟩ := create_eq_ok_iff.mp plainMade
  obtain rfl : builtInRegistry = registry := Except.ok.inj (registry_nil.2.symm.trans result)
  obtain ⟨template, found, stops, gives⟩ := text_of_required required unreserved ownTags ownAliases
    formed (TableGenerator.registry []).1
  have same := alike target (require_builtIn required).1 (.values context)
  cases first : firstMissing? names context with
  | some name =>
    -- A run that stopped in its template never came to the formatter.
    have ended : outcome = (Ending.stopped template.file (unbound name)).trace target :=
      same.trans (generate_of_stopped found (stops name first))
    rw [ended]
    exact ⟨unbound name, rfl, rfl,
      message_of_required required (List.mem_of_find?_eq_some first), rfl⟩
  | none =>
    -- The formatter returns what it is given, so the source is the text.
    intro identity
    subst identity
    obtain ⟨text, rendered⟩ := gives first
    have described : (Subject.values context).context = .ok context := rfl
    refine ⟨text.toUTF8, ?_⟩
    have ended : outcome = _ := same.trans (Generator.generate_of_text found described rendered)
    rw [ended]

/-- The values of a table without imports and without the name of its type. -/
def partialValues : Context :=
  [("package_name", .text "models"), ("table_name", .text "users"), ("columns", .list [])]

/-- Of the two missing values the type comes upon the imports first. -/
theorem generate_stops_at_imports :
    ∃ maker,
      (create plainHost Settings.default (some Formatter.unchanged) []).result = .ok maker ∧
      (maker.generator.generate (.text "struct") (.values partialValues)).result =
        .error (.target "struct" (.render (.execution (unbound "imports")))) := by
  -- The package is there, and the next name that is asked for is not.
  have made := create_builtIn plainHost Settings.default Formatter.unchanged
  have required : ("struct", ["package_name", "imports", "struct_name", "table_name", "columns"]) ∈
      requiredNames := List.mem_cons_self
  -- The values that are there have their form, and nothing is asked of the two missing ones.
  have formed : Formed ["package_name", "imports", "struct_name", "table_name", "columns"]
      partialValues := by
    simp only [Formed, List.forall_mem_cons]
    refine ⟨?_, ?_, ?_, ?_, ?_, by simp⟩
    all_goals
      intro value given
      cases given
    · exact ⟨_, rfl⟩
    · exact ⟨_, rfl⟩
    · exact ⟨[], rfl⟩
  obtain ⟨cause, result, rfl, -⟩ :=
    generate_stops_at_first_missing made required rfl rfl rfl formed
  exact ⟨_, made, result⟩

end Tablewright.Target
