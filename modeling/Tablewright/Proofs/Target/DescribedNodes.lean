import Tablewright.Proofs.Target.ColumnNodes
import Tablewright.Proofs.Template.Asking
import Tablewright.Proofs.Value.Described

/-! Built-in nodes among columns given as records: the lists of names and aliases refuse records. -/

namespace Tablewright.Target

open Template

section

variable {rel : ∀ {α β : Type}, (α → β → Prop) → Except RunFault α → Except RunFault β → Prop}
  (lasting : Lasting rel) {insert : Insert} {scope scope' : Context} {columns columns' : List Value}
  (apart : ColumnsApart DescribedAs scope scope' columns columns')
include lasting apart

/-- A type is the same. -/
theorem abreast_structNodes : ∀ node ∈ structNodes, node.Abreast rel insert scope' scope :=
  apart.abreast_structNodes lasting (fun _ _ pair => pair.member_name) fun _ _ pair =>
    pair.member_type

/-- A function that deletes a row is the same. -/
theorem abreast_deleteNodes : ∀ node ∈ deleteNodes, node.Abreast rel insert scope' scope :=
  apart.abreast_deleteNodes lasting

end

/-- Outcomes are the same up to values, unless a record is refused in the first of them. -/
abbrev SameOrRefused {α β : Type} (r : α → β → Prop) (result : Except RunFault α)
    (result' : Except RunFault β) : Prop :=
  SameUpTo r result result' ∨ ∃ fault, fault = .value unnamedRecord ∧ result = .error fault

/-- Such outcomes of steps make such an outcome of a run. -/
theorem lasting_sameOrRefused : Lasting SameOrRefused :=
  Lasting.sameOrStops (· = .value unnamedRecord)

/-- What is refused among values is refused inside a template. -/
theorem upToRefusal_run {unreplaced : Prop} {before after : Except Fault α}
    (refused : UpToRefusal unnamedRecord unreplaced before after) :
    UpToRefusal (.value unnamedRecord) unreplaced (run before) (run after) := by
  -- A fault among values is told on as it is.
  refine ⟨?_, fun value succeeded => ?_⟩
  · rcases refused.eq_or_refused with same | stopped
    · exact .inl (by rw [same])
    · exact .inr (by rw [stopped]; rfl)
  · -- A run that succeeds has a value, and only without records there is one.
    cases after with
    | error fault => cases succeeded
    | ok passed => exact refused.unreplaced_of_ok passed rfl

/-- What is evaluated is the same, or a record is refused. -/
theorem sameOrRefused_of_upToRefusal {before after : Except RunFault α} {unreplaced : Prop}
    (evaluated : UpToRefusal (.value unnamedRecord) unreplaced before after) :
    SameOrRefused (· = ·) after before := by
  -- Whether anything was replaced is not asked here.
  rcases evaluated.eq_or_refused with same | refused
  · exact .inl (.of_eq same)
  · exact .inr ⟨_, rfl, refused⟩

section

variable {scope scope' : Context} {columns columns' : List Value}
  (apart : ColumnsApart DescribedAs scope scope' columns columns')
include apart

/-- Whatever is called with a table and its columns gives the same, or refuses a record. -/
theorem call_described (operation table : Value) :
    UpToRefusal unnamedRecord (columns' = columns) (call operation [table, .list columns])
      (call operation [table, .list columns']) := by
  -- Of all that a context may call by this name, only the helper itself reads columns.
  cases operation with
  | helper operation =>
    cases operation with
    | aliasedColumns => exact (Fragment.aliasedColumnsOf_described apart.pairs table).bind _
    | tagName =>
      -- Columns are no text, in whatever form, so they are never appended to a table.
      have refused : UpToRefusal unnamedRecord (columns' = columns)
          (Naming.tagNameOf table (.list columns)) (Naming.tagNameOf table (.list columns')) := by
        unfold Naming.tagNameOf
        cases table.followedBy (String.singleton Naming.separator) with
        | error fault => exact .of_error _ _ fault
        | ok front => exact .of_error _ _ (Fault.notAppendable .text .list)
      exact refused.bind _
  | _ => exact .of_error _ _ _

/-- The columns under their tags are the same, or a record among them is refused. -/
theorem eval_aliasedColumns_described :
    UpToRefusal (.value unnamedRecord) (columns' = columns)
      ((Expr.call (.named "select_param_names") [.named "table_name", .named "columns"]).eval scope)
      ((Expr.call (.named "select_param_names") [.named "table_name", .named "columns"]).eval
        scope') := by
  -- The name of the helper may be taken by the context, alike in both scopes.
  simp only [evalIn_call, Expr.evalIn, evalAllIn, apart.before, apart.after,
    apart.others "table_name" (by decide), apart.others "select_param_names" (by decide),
    Bind.bind, Except.bind, Pure.pure, Except.pure]
  exact upToRefusal_run (call_described apart _ _)

/-- The names of the columns are the same, or a record among them is refused. -/
theorem eval_columnNames_described :
    UpToRefusal (.value unnamedRecord) (columns' = columns)
      ((Expr.filter "insert_param_names" (.named "columns") []).eval scope)
      ((Expr.filter "insert_param_names" (.named "columns") []).eval scope') := by
  -- A filter cannot be taken by the context, so it is always the one that reads names.
  simp only [evalIn_filter, Expr.evalIn, evalAllIn, apart.before, apart.after, Bind.bind,
    Except.bind, Pure.pure, Except.pure]
  exact upToRefusal_run ((Fragment.columnNamesOf_described apart.pairs).bind _)

/-- A function that reads every row is the same, or a record is refused. -/
theorem abreast_selectNodes (insert : Insert) :
    ∀ node ∈ selectNodes, node.Abreast SameOrRefused insert scope' scope :=
  apart.abreast_selectNodes lasting_sameOrRefused (fun _ _ pair => pair.member_name)
    (sameOrRefused_of_upToRefusal (eval_aliasedColumns_described apart))

/-- A function that adds a row is the same, or a record is refused. -/
theorem abreast_insertNodes (insert : Insert) :
    ∀ node ∈ insertNodes, node.Abreast SameOrRefused insert scope' scope :=
  apart.abreast_insertNodes lasting_sameOrRefused (fun _ _ pair => pair.member_name)
    (sameOrRefused_of_upToRefusal (eval_columnNames_described apart))

end

end Tablewright.Target
