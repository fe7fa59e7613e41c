import Tablewright.Proofs.Generation.Ending
import Tablewright.Proofs.Target.BuiltIn
import Tablewright.Proofs.Target.DescribedNodes
import Tablewright.Target.Warnings

/-! Columns given as records that describe them: what is said of them, and who takes them. -/

namespace Tablewright.Target

open Template

section

variable {columns columns' : List Value} (described : List.Forall₂ DescribedAs columns columns')
include described

/-- Repeated names are told alike. -/
theorem repeatedNames_described (table : Value) (seen : List Value) :
    repeatedNames table seen columns' = repeatedNames table seen columns := by
  -- A column and its record go by one name, so the same names have been seen before the next ones.
  induction described generalizing seen with
  | nil => rfl
  | cons first _ ih =>
    rw [repeatedNames, repeatedNames, nameOf, first.columnPart_name, ← nameOf]
    simp only [ih]

/-- Columns are judged alike. -/
theorem columnWarnings_described (table : Value) (fields : List (String × Value)) :
    columnWarnings table fields columns' = columnWarnings table fields columns := by
  -- A column and its record have one name and one type, which is all that is judged.
  induction described generalizing fields with
  | nil => rfl
  | cons first _ ih =>
    rw [columnWarnings, columnWarnings, nameOf, first.columnPart_name, ← nameOf, typeWarning,
      first.columnPart_type, ← typeWarning]
    simp only [ih]

/-- Nothing else is said of a context when records stand in place of columns. -/
theorem warnings_described {context : Context}
    (given : lookup? "columns" context = some (.list columns)) :
    warnings (assign "columns" (.list columns') context) = warnings context := by
  -- Warnings read the columns as a list and all else by names that are left alone.
  have others : ∀ name, name ≠ "columns" →
      lookup? name (assign "columns" (.list columns') context) = lookup? name context :=
    fun name apart => lookup?_assign_of_ne apart _ context
  have table : tableNameIn (assign "columns" (.list columns') context) = tableNameIn context := by
    rw [tableNameIn, others _ (by decide), tableNameIn]
  have before : columnsIn context = .list columns := by
    rw [columnsIn, given, Option.getD_some]
  have after : columnsIn (assign "columns" (.list columns') context) = .list columns' := by
    rw [columnsIn, lookup?_assign_self, Option.getD_some]
  -- A list counts as true by its length, which is the same.
  have truth : (Value.list columns').truth = (Value.list columns).truth := by
    cases described <;> rfl
  simp only [warnings, contextWarnings, table, before, after, truth, Value.elements,
    others "struct_name" (by decide), others "var_name" (by decide), Bind.bind, Except.bind,
    Pure.pure, Except.pure, repeatedNames_described described, columnWarnings_described described]

end

section

variable {context : Context} {columns columns' : List Value}
  (given : lookup? "columns" context = some (.list columns))
  (described : List.Forall₂ DescribedAs columns columns')
include given described

/-- Nodes that are the same among all such names have the same text. -/
theorem text_described {nodes : List Node} {shelf : Shelf} (passive : shelf.Passive nodes)
    (abreast : ∀ {insert : Insert} {scope scope' : Context},
      ColumnsApart DescribedAs scope scope' columns columns' →
        ∀ node ∈ nodes,
          node.Abreast (fun r result result' => SameUpTo r result result') insert scope' scope) :
    shelf.text nodes (assign "columns" (.list columns') context) = shelf.text nodes context :=
  text_columnsApart given described passive abreast

/-- Nodes of which one refuses records have the same text, or stop at the first record. -/
theorem text_upToRefusal {nodes : List Node} {value : Expr} {shelf : Shelf}
    (passive : shelf.Passive nodes) (member : .print value ∈ nodes)
    (printed : ∀ {scope scope' : Context}, ColumnsApart DescribedAs scope scope' columns columns' →
      UpToRefusal (.value unnamedRecord) (columns' = columns) (value.eval scope)
        (value.eval scope'))
    (abreast : ∀ {scope scope' : Context}, ColumnsApart DescribedAs scope scope' columns columns' →
      ∀ insert, ∀ node ∈ nodes, node.Abreast SameOrRefused insert scope' scope) :
    UpToRefusal (.value unnamedRecord) (columns' = columns) (shelf.text nodes context)
      (shelf.text nodes (assign "columns" (.list columns') context)) := by
  -- What refuses records is one of the nodes, so its success is needed for the text.
  have apart := columnsApart_assign given described
  have each := abreast apart (shelf.insert insertDepth)
  have whole := Abreast.of_forall lasting_sameOrRefused each
  refine ⟨?_, fun text succeeded => ?_⟩
  · rcases Abreast.shelfText lasting_sameOrRefused passive (lookup?_assign_of_ne (by decide) _ _)
      whole with same | ⟨_, rfl, stopped⟩
    · exact .inl (sameUpTo_eq_iff.mp same)
    · exact .inr stopped
  · -- A text of all nodes holds one of the node that refuses records.
    obtain ⟨outcome, _, _, kept, _⟩ := whole
    rw [kept.shelfText passive] at succeeded
    split at succeeded
    · cases succeeded
    · subst succeeded
      have keeps : ∀ node ∈ nodes, ∃ part, node.Keeps (shelf.insert insertDepth)
          (assign "columns" (.list columns') context ++ helpers) part := by
        intro node inside
        obtain ⟨part, _, _, keeps, _⟩ := each node inside
        exact ⟨part, keeps⟩
      obtain ⟨part, shown⟩ := exists_text_of_mem keeps kept _ member
      rw [Node.Keeps, keeps_print] at shown
      cases evaluated : value.eval (assign "columns" (.list columns') context ++ helpers) with
      | error fault =>
        rw [evaluated] at shown
        cases shown
      | ok result => exact (printed apart).unreplaced_of_ok result evaluated

end

/-- A run whose text is as before or refused ends as before or stops with the refusal. -/
theorem generate_upToRefusal (renderer : Renderer) (shelves : Shelves) {registry : Registry}
    {target : String} {template : Template} {context context' : Context} {refusal : RunFault}
    {unreplaced : Prop} (found : registry.get? (fileName target) = some template)
    (text : UpToRefusal refusal unreplaced (template.text shelves context)
      (template.text shelves context')) :
    (Generator.generate ⟨registry, renderer, shelves⟩ (.text target) (.values context') =
        Generator.generate ⟨registry, renderer, shelves⟩ (.text target) (.values context) ∨
      Generator.generate ⟨registry, renderer, shelves⟩ (.text target) (.values context') =
        (Ending.stopped template.file refusal).trace target) ∧
    ∀ source, (Generator.generate ⟨registry, renderer, shelves⟩ (.text target)
      (.values context')).result = .ok source → unreplaced := by
  -- A run passes on the text or its fault and decides nothing by itself.
  refine ⟨?_, fun source succeeded => ?_⟩
  · rcases text.eq_or_refused with same | refused
    · exact .inl (generate_congr found same)
    · exact .inr (generate_of_stopped found refused)
  · cases rendered : template.text shelves context' with
    | error cause =>
      rw [generate_of_stopped found rendered] at succeeded
      cases succeeded
    | ok output => exact text.unreplaced_of_ok output rendered

/-- Records that describe columns are warned of as the columns are, and a type and a function that
deletes are generated from them alike; functions that read or add rows refuse the first record. -/
theorem generate_described (host : Host) (settings : Settings) (formatter : Formatter)
    {context context' : Context} {columns columns' : List Value}
    (given : lookup? "columns" context = some (.list columns))
    (described : List.Forall₂ DescribedAs columns columns')
    (replaced : context' = assign "columns" (.list columns') context) :
    warnings context' = warnings context ∧
    ∃ maker, (TableGenerator.create host settings (some formatter) []).result = .ok maker ∧
      (∀ target ∈ ["struct", "delete"],
        maker.generator.generate (.text target) (.values context') =
          maker.generator.generate (.text target) (.values context)) ∧
      ∀ target ∈ ["select", "insert"],
        (maker.generator.generate (.text target) (.values context') =
            maker.generator.generate (.text target) (.values context) ∨
          maker.generator.generate (.text target) (.values context') =
            (Ending.stopped (fileName target) (.value unnamedRecord)).trace target) ∧
        ∀ source,
          (maker.generator.generate (.text target) (.values context')).result = .ok source →
            columns' = columns := by
  -- Texts are compared target by target; what follows a text is the same for all of them.
  subst replaced
  obtain ⟨structFound, selectFound, insertFound, deleteFound⟩ := get?_builtIn
  obtain ⟨_, selectName, insertName, _⟩ := fileName_builtIn
  obtain ⟨structKeeps, selectKeeps, insertKeeps, deleteKeeps⟩ :=
    passive_builtIn (builtInShelves.shelf TableGenerator.ownShelf)
  refine ⟨warnings_described described given, _, create_builtIn host settings formatter, ?_, ?_⟩
  · simp only [List.forall_mem_cons]
    refine ⟨generate_congr structFound ?_, generate_congr deleteFound ?_, by simp⟩
    · exact text_described given described structKeeps (abreast_structNodes Lasting.sameUpTo)
    · exact text_described given described deleteKeeps (abreast_deleteNodes Lasting.sameUpTo)
  · -- Each of the two texts has one node that refuses records.
    have select := generate_upToRefusal ⟨formatter, defaultEncoding⟩ builtInShelves selectFound
      (text_upToRefusal given described selectKeeps (by simp [selectNodes])
        eval_aliasedColumns_described abreast_selectNodes)
    have insert := generate_upToRefusal ⟨formatter, defaultEncoding⟩ builtInShelves insertFound
      (text_upToRefusal given described insertKeeps (by simp [insertNodes])
        eval_columnNames_described abreast_insertNodes)
    simp only [List.forall_mem_cons, selectName, insertName]
    exact ⟨select, insert, by simp⟩

/-- The values of a table with one column, in either form of it. -/
def rolesContext (column : Value) : Context :=
  [("table_name", .text "roles"), ("columns", .list [column]), ("package_name", .text "models"),
    ("imports", .list []), ("struct_name", .text "Roles"), ("var_name", .text "roles")]

/-- The column of that table. -/
def roleColumn : Value := .column (.text "id") (.text "int") (.bool false)

/-- A record that describes the column. -/
def roleRecord : Value :=
  .record [("name", .text "id"), ("type", .text "int"), ("is_nullable", .bool false)]

/-- Given as a column, the column is read and added. -/
theorem generate_roleColumn :
    ∀ target ∈ ["select", "insert"], ∃ source,
      ((builtInGenerator Formatter.unchanged).generate (.text target)
        (.values (rolesContext roleColumn))).result = .ok source := by
  -- The texts are computed; of the sources made of them only the existence matters.
  have texts : (∃ text, Template.text ⟨"select.tpl", selectNodes, TableGenerator.ownShelf⟩
        builtInShelves (rolesContext roleColumn) = .ok text) ∧
      ∃ text, Template.text ⟨"insert.tpl", insertNodes, TableGenerator.ownShelf⟩
        builtInShelves (rolesContext roleColumn) = .ok text :=
    ⟨exists_ok_of_isSome (by decide +kernel), exists_ok_of_isSome (by decide +kernel)⟩
  obtain ⟨⟨selected, selectText⟩, ⟨inserted, insertText⟩⟩ := texts
  obtain ⟨_, selectFound, insertFound, _⟩ := get?_builtIn
  simp only [List.forall_mem_cons]
  refine ⟨⟨selected.toUTF8, ?_⟩, ⟨inserted.toUTF8, ?_⟩, by simp⟩
  · rw [builtInGenerator, Generator.generate_of_text selectFound rfl selectText]
  · rw [builtInGenerator, Generator.generate_of_text insertFound rfl insertText]

/-- One described column is enough for functions that read or add rows to stop. -/
theorem generate_roleRecord :
    warnings (rolesContext roleRecord) = warnings (rolesContext roleColumn) ∧
    ∃ maker,
      (TableGenerator.create plainHost Settings.default (some Formatter.unchanged) []).result =
        .ok maker ∧
      (maker.generator.generate (.text "struct") (.values (rolesContext roleRecord)) =
        maker.generator.generate (.text "struct") (.values (rolesContext roleColumn))) ∧
      ∀ target ∈ ["select", "insert"],
        maker.generator.generate (.text target) (.values (rolesContext roleRecord)) =
          (Ending.stopped (fileName target) (.value unnamedRecord)).trace target := by
  -- What is generated is told by the general statement, up to a refusal or none.
  have given : lookup? "columns" (rolesContext roleColumn) = some (.list [roleColumn]) := rfl
  have described : List.Forall₂ DescribedAs [roleColumn] [roleRecord] :=
    .cons (.record rfl rfl rfl) .nil
  obtain ⟨same, maker, made, alike, others⟩ := generate_described plainHost Settings.default
    Formatter.unchanged given described rfl
  obtain rfl : ⟨builtInGenerator Formatter.unchanged, Settings.default⟩ = maker := by
    rw [create_builtIn] at made
    cases made
    rfl
  refine ⟨same, _, made, alike "struct" (by simp), fun target member => ?_⟩
  -- The run is as before or refused, and the first of the two is ruled out.
  obtain ⟨outcome, unreplaced⟩ := others target member
  refine outcome.resolve_left fun unchanged => ?_
  -- The run would succeed as it does for the column, which only the column itself brings about.
  obtain ⟨source, succeeded⟩ := generate_roleColumn target member
  have equal := unreplaced source (by rw [unchanged]; exact succeeded)
  cases equal

/-- A record is not taken in place of the column it describes where a row is added. -/
theorem insert_refuses_roleRecord :
    DescribedAs roleColumn roleRecord ∧
    ∃ maker,
      (TableGenerator.create plainHost Settings.default (some Formatter.unchanged) []).result =
        .ok maker ∧
      (∃ source, (maker.generator.generate (.text "insert")
        (.values (rolesContext roleColumn))).result = .ok source) ∧
      (maker.generator.generate (.text "insert") (.values (rolesContext roleRecord))).result =
        .error (.target "insert" (.render (.execution (.value (.noMember .record "name"))))) := by
  -- The text stops where the names of the columns are listed, and that is what is reported.
  refine ⟨.record rfl rfl rfl, _, create_builtIn _ _ _, generate_roleColumn _ (by simp), ?_⟩
  have stopped : Template.text ⟨"insert.tpl", insertNodes, TableGenerator.ownShelf⟩ builtInShelves
      (rolesContext roleRecord) = .error (.value unnamedRecord) := by decide +kernel
  obtain ⟨_, _, found, _⟩ := get?_builtIn
  rw [builtInGenerator, generate_of_stopped found stopped]
  rfl

end Tablewright.Target
