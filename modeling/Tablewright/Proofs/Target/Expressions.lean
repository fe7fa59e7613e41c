import Tablewright.Proofs.Fragment
import Tablewright.Proofs.Target.Nodes

/-! What the built-in templates print of a table: its names, its columns and lists of them. -/

namespace Tablewright.Target

open Template

section

variable {insert : Insert} {scope : Context} {rest : List Node}

/-- A name whose value is a text is printed as that text. -/
theorem renderNodes_shown {name text : String} (given : named scope name = .text text) :
    renderNodes insert scope (shown name :: rest) =
      prepend text (renderNodes insert scope rest) :=
  renderNodes_print (eval_named given)

/-- A loop whose rounds each end a line writes a line for each item, in the order of the items. -/
theorem renderNodes_lines {name : String} {elements : Expr} {body : List Node} {items : List α}
    {value : α → Value} {line : α → String} (silent : bodyMentions loopName body = false)
    (evaluated : elements.eval scope = .ok (.list (items.map value)))
    (rounds : ∀ item, ∃ last, renderNodes insert ((name, value item) :: scope) body =
      .ok (line item ++ "\n", last)) :
    renderNodes insert scope (.each name elements body [] :: rest) =
      prepend (sourceOf (items.map line)) (renderNodes insert scope rest) := by
  -- The body never asks where the loop stands, so a round depends on its item alone.
  have lines : (items.map line).map (· ++ "\n") =
      items.zipIdx.map fun entry => line entry.1 ++ "\n" := by
    calc (items.map line).map (· ++ "\n")
        = ((items.zipIdx.map Prod.fst).map line).map (· ++ "\n") := by rw [List.zipIdx_map_fst]
      _ = items.zipIdx.map fun entry => line entry.1 ++ "\n" := by
        rw [List.map_map, List.map_map]
        rfl
  rw [sourceOf, lines]
  -- A round is told by its item, wherever in the loop it stands.
  apply renderNodes_each evaluated
  intro entry _
  rw [roundScope_of_silent silent]
  exact rounds entry.1

/-- A loop that writes a separator behind every round but the last one joins its texts. -/
theorem renderNodes_separated {name separator : String} {elements : Expr} {body : List Node}
    {items : List α} {value : α → Value} {text : α → String}
    (asking : bodyMentions loopName body = true)
    (evaluated : elements.eval scope = .ok (.list (items.map value)))
    (rounds : ∀ item done, ∃ last,
      renderNodes insert
          ((name, value item) :: (loopName, .loop ⟨done, items.length⟩) :: scope) body =
        .ok (text item ++ if done + 1 = items.length then "" else separator, last)) :
    renderNodes insert scope (.each name elements body [] :: rest) =
      prepend (separator.intercalate (items.map text)) (renderNodes insert scope rest) := by
  -- The rounds write the texts with a separator behind all but the last of them.
  rw [← Text.join_separated separator text items 0]
  apply renderNodes_each evaluated
  intro entry _
  rw [roundScope_of_asking asking, Nat.zero_add]
  exact rounds entry.1 entry.2

/-- Behind the last round of a loop, and only there, the loop is not asked to go on. -/
theorem eval_notLast {done length : Nat}
    (looping : named scope loopName = .loop ⟨done, length⟩) :
    (Expr.not (.member (.named loopName) "last")).eval scope =
      .ok (.bool !decide (done + 1 = length)) := by
  refine eval_not (eval_member (eval_named looping) rfl) ?_
  simp [LoopState.member?, Value.ownMember?, Value.truth, beq_eq_decide, Pure.pure, Except.pure]

variable {column : TextColumn} (current : named scope "column" = column.value)
include current

/-- The name of the column that a loop is at. -/
theorem eval_columnName : columnName.eval scope = .ok (.text column.name) :=
  eval_member (eval_named current) rfl

/-- The type of the column that a loop is at. -/
theorem eval_columnType :
    (Expr.member (.named "column") "type").eval scope = .ok (.text column.type) :=
  eval_member (eval_named current) rfl

/-- The field name of the column that a loop is at is printed as the type name of its name. -/
theorem renderNodes_shownField :
    renderNodes insert scope (shownField :: rest) =
      prepend (Naming.typeName column.name) (renderNodes insert scope rest) :=
  renderNodes_print (eval_filter (eval_columnName current) rfl rfl)

/-- The tag of the column that a loop is at, when the operation goes by its own name. -/
theorem eval_tagName {table : String} (operation : named scope "db_name" = .helper .tagName)
    (tabled : named scope "table_name" = .text table) :
    (Expr.call (.named "db_name") [.named "table_name", columnName]).eval scope =
      .ok (.text (Naming.tagName table column.name)) :=
  eval_call (eval_named operation) (eval_named tabled) (eval_columnName current) rfl

end

section

variable {scope : Context} {columns : List TextColumn}
  (listed : named scope "columns" = .list (columns.map TextColumn.value))
include listed

/-- The names of the columns in a row. -/
theorem eval_columnNames :
    (Expr.filter "insert_param_names" (.named "columns") []).eval scope =
      .ok (.text (", ".intercalate (columns.map (·.name)))) := by
  -- The list is there, and the filter makes one text of it.
  refine eval_filter (eval_named listed) rfl ?_
  simp [Filter.apply, onlySubject, Fragment.columnNamesOf_columns, Bind.bind, Except.bind,
    Pure.pure, Except.pure]

/-- The placeholders for the columns in a row. -/
theorem eval_placeholders :
    (Expr.filter "insert_param_flags" (.named "columns") []).eval scope =
      .ok (.text (", ".intercalate
        ((List.range' 1 columns.length).map fun index => "$" ++ toString index))) := by
  -- The list is there, and the filter counts it.
  refine eval_filter (eval_named listed) rfl ?_
  simp [Filter.apply, onlySubject, Fragment.placeholdersOf_columns, Bind.bind, Except.bind,
    Pure.pure, Except.pure]

/-- The columns under their tags in a row, when the operation goes by its own name. -/
theorem eval_aliasedColumns {table : String}
    (operation : named scope "select_param_names" = .helper .aliasedColumns)
    (tabled : named scope "table_name" = .text table) :
    (Expr.call (.named "select_param_names") [.named "table_name", .named "columns"]).eval scope =
      .ok (.text (", ".intercalate
        (columns.map fun column => Fragment.aliased table column.name))) := by
  -- The operation is called by its own name, with the table and the list.
  refine eval_call (eval_named operation) (eval_named tabled) (eval_named listed) ?_
  simp [applyHelper, onPair, Fragment.aliasedColumnsOf_columns, Bind.bind, Except.bind, Pure.pure,
    Except.pure]

end

end Tablewright.Target
