import Tablewright.Generation.Warnings
import Tablewright.Proofs.Table

/-! When nothing is said of a table of texts, whatever kind of source it is meant for. -/

namespace Tablewright

section

variable {table : Value} {column : TextColumn} {value : Value} (given : column.GivenAs value)
  {seen : List String} {rest : List Value}
include given

/-- A name that came in before is told, and the names that came in stay the same. -/
theorem repeatedNames_of_mem (known : column.name ∈ seen) :
    repeatedNames table (seen.map .text) (value :: rest) =
      (repeatedNames table (seen.map .text) rest).map
        (("Duplicate column " ++ columnPlace table (.text column.name)) :: ·) := by
  -- The warnings of the rest are computed either way, and this one stands in front of them.
  have called : nameOf value = .text column.name := given.columnPart_name
  cases others : repeatedNames table (seen.map .text) rest <;>
    simp [repeatedNames, called, memberOf_texts, known, others, Bind.bind, Except.bind,
      Pure.pure, Except.pure, Except.map]

/-- A name that did not come in before is added to those that did. -/
theorem repeatedNames_of_not_mem (fresh : column.name ∉ seen) :
    repeatedNames table (seen.map .text) (value :: rest) =
      repeatedNames table ((column.name :: seen).map .text) rest := by
  -- Nothing is told, and the rest is seen behind one name more.
  have called : nameOf value = .text column.name := given.columnPart_name
  cases others : repeatedNames table (.text column.name :: seen.map .text) rest <;>
    simp [repeatedNames, called, memberOf_texts, fresh, others, Bind.bind, Except.bind,
      Pure.pure, Except.pure]

end

/-- Nothing is said of repeated names when no name came in before or comes twice. -/
theorem repeatedNames_columns (table : Value) (columns : List TextColumn) (seen : List String) :
    ∃ said, repeatedNames table (seen.map .text) (columns.map TextColumn.value) = .ok said ∧
      (said = [] ↔
        (columns.map (·.name)).Nodup ∧ ∀ name ∈ columns.map (·.name), name ∉ seen) := by
  -- What has been seen are the names passed so far, each of which was new when it came.
  induction columns generalizing seen with
  | nil => exact ⟨[], rfl, by simp⟩
  | cons column rest ih =>
    by_cases known : column.name ∈ seen
    · -- The name is told at once, and it is one of those that came in before.
      obtain ⟨others, made, _⟩ := ih seen
      rw [List.map_cons, repeatedNames_of_mem .whole known, made]
      exact ⟨_, rfl, by simp [known]⟩
    · -- Nothing is told here, and the names that follow must also differ from this one.
      obtain ⟨others, made, silent⟩ := ih (column.name :: seen)
      rw [List.map_cons, repeatedNames_of_not_mem .whole known, made]
      refine ⟨others, rfl, ?_⟩
      rw [silent, List.map_cons, List.nodup_cons]
      constructor
      · -- Names that differ from each other and from those seen differ from this one too.
        rintro ⟨once, apart⟩
        refine ⟨⟨fun again => apart _ again (by simp), once⟩, fun name member => ?_⟩
        rcases List.mem_cons.mp member with rfl | later
        · exact known
        · exact fun old => apart name later (by simp [old])
      · -- The other way round, this name joins those that have been seen.
        rintro ⟨⟨alone, once⟩, apart⟩
        refine ⟨once, fun name later => ?_⟩
        rw [List.mem_cons, not_or]
        exact ⟨fun same => alone (same ▸ later), apart name (by simp [later])⟩

/-- Nothing is said of a named table whose columns, one at least, have different names. -/
theorem contextWarnings_textContext (table : String) (columns : List TextColumn) (package : Value)
    (paths : List String) :
    ∃ said, contextWarnings (textContext table columns package paths) = .ok said ∧
      (said = [] ↔ table ≠ "" ∧ columns ≠ [] ∧ (columns.map (·.name)).Nodup) := by
  -- The warnings are three lists in a row, so there are none when each of them is empty.
  obtain ⟨repeated, made, silent⟩ := repeatedNames_columns (.text table) columns []
  rw [List.map_nil] at made
  have tabled : tableNameIn (textContext table columns package paths) = .text table := rfl
  have listed : columnsIn (textContext table columns package paths) =
      .list (columns.map TextColumn.value) := rfl
  -- Both entries are there as texts and lists, so each check is evaluated.
  simp only [contextWarnings, tabled, listed, Value.truth, Value.elements, made, Bind.bind,
    Except.bind, Pure.pure, Except.pure]
  refine ⟨_, rfl, ?_⟩
  rw [List.append_eq_nil_iff, List.append_eq_nil_iff, silent]
  simp [and_assoc]

end Tablewright
