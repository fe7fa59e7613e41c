import Tablewright.Proofs.Fragment
import Tablewright.Proofs.Target.Nodes
import Tablewright.Proofs.Template.Abreast
import Tablewright.Proofs.Value.Entries

/-! Built-in nodes among columns that correspond one by one: what is shown of both is the same. -/

namespace Tablewright.Target

open Template

/-- Values that correspond have the same member of a name. -/
def SamePart (part : String) (corresponds : Value → Value → Prop) : Prop :=
  ∀ ⦃column column'⦄, corresponds column column' → column'.member part = column.member part

/-- Two scopes differ in their columns alone, which correspond one by one. -/
structure ColumnsApart (corresponds : Value → Value → Prop) (scope scope' : Context)
    (columns columns' : List Value) : Prop where
  others : ∀ name, name ≠ "columns" → named scope' name = named scope name
  before : named scope "columns" = .list columns
  after : named scope' "columns" = .list columns'
  pairs : List.Forall₂ corresponds columns columns'

/-- Two rounds are at columns that correspond. -/
structure ColumnRound (corresponds : Value → Value → Prop) (scope scope' : Context) : Prop where
  others : ∀ name, name ≠ "columns" → name ≠ "column" → named scope' name = named scope name
  current : corresponds (named scope "column") (named scope' "column")

section

variable {corresponds : Value → Value → Prop}

/-- In such scopes a loop over the columns goes through such rounds. -/
theorem ColumnsApart.round {scope scope' : Context} {columns columns' : List Value}
    (apart : ColumnsApart corresponds scope scope' columns columns') {column column' : Value}
    (pair : corresponds column column') (body : List Node) (length done : Nat) :
    ColumnRound corresponds (roundScope scope "column" body length done column)
      (roundScope scope' "column" body length done column') := by
  -- A round has a name for its column and one for the loop, and nothing else is new.
  refine ⟨fun name notAll notOne => ?_, ?_⟩
  · exact named_roundScope_congr (Ne.symm notOne) (apart.others name notAll) ..
  · rw [named_roundScope_self, named_roundScope_self]
    exact pair

/-- The placeholders for the columns are the same. -/
theorem ColumnsApart.eval_placeholders {scope scope' : Context} {columns columns' : List Value}
    (apart : ColumnsApart corresponds scope scope' columns columns') :
    (Expr.filter "insert_param_flags" (.named "columns") []).eval scope' =
      (Expr.filter "insert_param_flags" (.named "columns") []).eval scope := by
  -- Placeholders are counted, and both lists of columns have one length.
  simp [Expr.evalIn, evalAllIn, apart.before, apart.after, applyFilter, Filter.ofName?,
    Filter.apply, Fragment.placeholdersOf_of_length_eq apart.pairs.length_eq, Bind.bind,
    Except.bind, Pure.pure, Except.pure]

/-- A part that corresponding columns have in common is the same in both rounds. -/
theorem ColumnRound.eval_part {scope scope' : Context}
    (round : ColumnRound corresponds scope scope') {part : String}
    (same : SamePart part corresponds) :
    (Expr.member (.named "column") part).eval scope' =
      (Expr.member (.named "column") part).eval scope := by
  simp only [Expr.evalIn, plain_member, Bind.bind, Except.bind, Pure.pure, Except.pure,
    same round.current]

/-- The name of the column that a round is at is the same. -/
theorem ColumnRound.eval_columnName {scope scope' : Context}
    (round : ColumnRound corresponds scope scope') (titled : SamePart "name" corresponds) :
    columnName.eval scope' = columnName.eval scope := round.eval_part titled

end

section

variable {rel : ∀ {α β : Type}, (α → β → Prop) → Except RunFault α → Except RunFault β → Prop}
  (lasting : Lasting rel) {insert : Insert} {corresponds : Value → Value → Prop}
include lasting

/-- A name of one value in two scopes is printed alike. -/
theorem abreast_shown {scope scope' : Context} {name : String}
    (same : named scope' name = named scope name) :
    (shown name).Abreast rel insert scope' scope :=
  Node.Abreast.print_same lasting (by simp only [Expr.evalIn, same])

section

variable {scope scope' : Context} (round : ColumnRound corresponds scope scope')
  (titled : SamePart "name" corresponds)
include round titled

/-- The field of a column is printed alike. -/
theorem ColumnRound.abreast_shownField : shownField.Abreast rel insert scope' scope :=
  Node.Abreast.print_same lasting
    (by simp only [Expr.evalIn, evalAllIn, round.eval_columnName titled])

/-- The line of a field is the same. -/
theorem ColumnRound.abreast_fieldBody (typed : SamePart "type" corresponds) :
    Abreast rel insert scope' scope fieldBody := by
  -- Beside the parts of the column, its line shows its tag alone.
  have tag : (Expr.call (.named "db_name") [.named "table_name", columnName]).eval scope' =
      (Expr.call (.named "db_name") [.named "table_name", columnName]).eval scope := by
    simp only [evalIn_call, Expr.evalIn, evalAllIn, round.eval_columnName titled,
      round.others "db_name" (by decide) (by decide),
      round.others "table_name" (by decide) (by decide)]
  refine Abreast.of_forall lasting ?_
  simp only [fieldBody, List.forall_mem_cons]
  -- The nodes of the line in a row: texts, the field, its type and its tag.
  exact ⟨.text lasting _, round.abreast_shownField lasting titled, .text lasting _,
    .print_same lasting (round.eval_part typed), .text lasting _, .print_same lasting tag,
    .text lasting _, by simp⟩

/-- The argument that a column is read into is the same. -/
theorem ColumnRound.abreast_destinationBody : Abreast rel insert scope' scope destinationBody := by
  -- Whether a comma follows is told by the loop, not by the column.
  have last : (Expr.not (.member (.named "loop") "last")).eval scope' =
      (Expr.not (.member (.named "loop") "last")).eval scope := by
    simp only [Expr.evalIn, round.others "loop" (by decide) (by decide)]
  refine Abreast.of_forall lasting ?_
  simp only [destinationBody, List.forall_mem_cons]
  exact ⟨.text lasting _, round.abreast_shownField lasting titled,
    .branch lasting last (.of_forall lasting (by simp [Node.Abreast.text lasting])), by simp⟩

/-- The argument of an inserted row is the same. -/
theorem ColumnRound.abreast_argumentBody : Abreast rel insert scope' scope argumentBody := by
  -- The value that the field belongs to has the same name in both scopes.
  refine Abreast.of_forall lasting ?_
  simp only [argumentBody, List.forall_mem_cons]
  exact ⟨.text lasting _, abreast_shown lasting (round.others _ (by decide) (by decide)),
    .text lasting _, round.abreast_shownField lasting titled, .text lasting _, by simp⟩

end

section

variable {scope scope' : Context} {columns columns' : List Value}
  (apart : ColumnsApart corresponds scope scope' columns columns')
include apart

/-- A loop over the columns is the same when each of its rounds is. -/
theorem ColumnsApart.abreast_eachColumn {body : List Node}
    (rounds : ∀ {scope scope' : Context}, ColumnRound corresponds scope scope' →
      Abreast rel insert scope' scope body) :
    (Node.each "column" (.named "columns") body []).Abreast rel insert scope' scope := by
  -- The columns correspond one by one, in either order of the two scopes.
  have listed : Listed (fun column' column => corresponds column column')
      ((Expr.named "columns").elementsIn scope') ((Expr.named "columns").elementsIn scope) := by
    refine .inr ⟨columns', columns, ?_, ?_, apart.pairs.flip⟩
    · simp [Expr.elementsIn, Expr.evalIn, apart.after, Value.elements, Bind.bind, Except.bind,
        Pure.pure, Except.pure]
    · simp [Expr.elementsIn, Expr.evalIn, apart.before, Value.elements, Bind.bind, Except.bind,
        Pure.pure, Except.pure]
  exact .each lasting listed fun _ _ length done pair =>
    rounds (apart.round pair body length done)

/-- The lines of the imports are the same. -/
theorem ColumnsApart.abreast_importNodes : Abreast rel insert scope' scope importNodes := by
  -- The imports are the same list, so each round has the same path.
  have imports : (Expr.named "imports").eval scope' = (Expr.named "imports").eval scope := by
    simp only [Expr.evalIn, apart.others "imports" (by decide)]
  refine Abreast.of_forall lasting ?_
  simp only [importNodes, List.forall_mem_cons]
  refine ⟨.text lasting _, .each lasting (listed_of_eval_eq imports) ?_, .text lasting _, by simp⟩
  -- A round shows its path between texts.
  rintro path _ length done rfl
  refine Abreast.of_forall lasting ?_
  simp only [importBody, List.forall_mem_cons]
  refine ⟨.text lasting _, abreast_shown lasting ?_, .text lasting _, by simp⟩
  rw [named_roundScope_self, named_roundScope_self]

/-- A type is the same among columns of the same names and types. -/
theorem ColumnsApart.abreast_structNodes (titled : SamePart "name" corresponds)
    (typed : SamePart "type" corresponds) :
    ∀ node ∈ structNodes, node.Abreast rel insert scope' scope := by
  -- Columns are shown by the loop alone, and all else by names that are the same.
  have name : ∀ {name}, name ≠ "columns" → (shown name).Abreast rel insert scope' scope :=
    fun other => abreast_shown lasting (apart.others _ other)
  have imports : (Expr.named "imports").eval scope' = (Expr.named "imports").eval scope := by
    simp only [Expr.evalIn, apart.others "imports" (by decide)]
  -- Each node is a text, a name, the loop over the columns or the block of imports.
  simp [structNodes, openingNodes, Node.Abreast.text lasting, name,
    apart.abreast_eachColumn lasting fun round => round.abreast_fieldBody lasting titled typed,
    Node.Abreast.branch lasting imports (apart.abreast_importNodes lasting)]

/-- A function that deletes a row is the same. -/
theorem ColumnsApart.abreast_deleteNodes :
    ∀ node ∈ deleteNodes, node.Abreast rel insert scope' scope := by
  -- A function that deletes a row shows no column.
  have name : ∀ {name}, name ≠ "columns" → (shown name).Abreast rel insert scope' scope :=
    fun other => abreast_shown lasting (apart.others _ other)
  simp [deleteNodes, openingNodes, Node.Abreast.text lasting, name]

/-- A function that reads every row has related texts when its aliased lists are related. -/
theorem ColumnsApart.abreast_selectNodes (titled : SamePart "name" corresponds)
    (aliased : rel (· = ·)
      ((Expr.call (.named "select_param_names") [.named "table_name", .named "columns"]).eval
        scope')
      ((Expr.call (.named "select_param_names") [.named "table_name", .named "columns"]).eval
        scope)) :
    ∀ node ∈ selectNodes, node.Abreast rel insert scope' scope := by
  -- Beside the loop over the columns, only the aliased list looks into them.
  have name : ∀ {name}, name ≠ "columns" → (shown name).Abreast rel insert scope' scope :=
    fun other => abreast_shown lasting (apart.others _ other)
  simp [selectNodes, openingNodes, Node.Abreast.text lasting, name,
    Node.Abreast.print lasting aliased,
    apart.abreast_eachColumn lasting fun round => round.abreast_destinationBody lasting titled]

/-- A function that adds a row has related texts when its lists of names are related. -/
theorem ColumnsApart.abreast_insertNodes (titled : SamePart "name" corresponds)
    (listed : rel (· = ·) ((Expr.filter "insert_param_names" (.named "columns") []).eval scope')
      ((Expr.filter "insert_param_names" (.named "columns") []).eval scope)) :
    ∀ node ∈ insertNodes, node.Abreast rel insert scope' scope := by
  -- Beside the loop over the columns, the list of names looks into them; placeholders do not.
  have name : ∀ {name}, name ≠ "columns" → (shown name).Abreast rel insert scope' scope :=
    fun other => abreast_shown lasting (apart.others _ other)
  simp [insertNodes, openingNodes, Node.Abreast.text lasting, name,
    Node.Abreast.print lasting listed,
    Node.Abreast.print_same lasting apart.eval_placeholders,
    apart.abreast_eachColumn lasting fun round => round.abreast_argumentBody lasting titled]

end

end

section

variable {context : Context} {columns columns' : List Value}
  {corresponds : Value → Value → Prop} (given : lookup? "columns" context = some (.list columns))
  (pairs : List.Forall₂ corresponds columns columns')
include given pairs

/-- Putting other columns in place of those of a context leaves all other names alone. -/
theorem columnsApart_assign :
    ColumnsApart corresponds (context ++ helpers)
      (assign "columns" (.list columns') context ++ helpers) columns columns' := by
  -- Only one name is put anew, and the operations come behind all names.
  refine ⟨fun name other => ?_, ?_, ?_, pairs⟩
  · rw [named, named, Medium.named, Medium.named, lookup?_append, lookup?_append,
      lookup?_assign_of_ne other]
  · rw [named, Medium.named, lookup?_append, given, Option.some_or, Option.getD_some]
  · rw [named, Medium.named, lookup?_append, lookup?_assign_self, Option.some_or, Option.getD_some]

/-- Nodes that are the same among all such names have the same text. -/
theorem text_columnsApart {nodes : List Node} {shelf : Shelf} (passive : shelf.Passive nodes)
    (abreast : ∀ {insert : Insert} {scope scope' : Context},
      ColumnsApart corresponds scope scope' columns columns' →
        ∀ node ∈ nodes,
          node.Abreast (fun r result result' => SameUpTo r result result') insert scope' scope) :
    shelf.text nodes (assign "columns" (.list columns') context) = shelf.text nodes context :=
  sameUpTo_eq_iff.mp (Abreast.shelfText Lasting.sameUpTo passive
    (lookup?_assign_of_ne (by decide) _ _)
    (.of_forall Lasting.sameUpTo (abreast (columnsApart_assign given pairs))))

end

end Tablewright.Target
