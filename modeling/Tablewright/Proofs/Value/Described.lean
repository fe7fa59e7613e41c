import Mathlib.Data.List.Forall2
import Tablewright.Fragment
import Tablewright.Value.Member

/-! Columns given as records that describe them: what reads them alike, and what refuses records. -/

namespace Tablewright

/-- A value as it is, or a record in place of the column that it describes. -/
inductive DescribedAs : Value → Value → Prop where
  | same (value : Value) : DescribedAs value value
  | record {name type nullable : Value} {entries : List (String × Value)}
      (named : lookup? "name" entries = some name) (typed : lookup? "type" entries = some type)
      (nulled : lookup? "is_nullable" entries = some nullable) :
      DescribedAs (.column name type nullable) (.record entries)

/-- Why a record is refused where only a column has a name. -/
def unnamedRecord : Fault := .noMember .record "name"

section

variable {column column' : Value} (described : DescribedAs column column')
include described

/-- The name that messages speak of is the same in either form. -/
theorem DescribedAs.columnPart_name (default : Value) :
    column'.columnPart "name" default = column.columnPart "name" default := by
  -- A record has the entry by which it describes the column.
  cases described with
  | same => rfl
  | record named => simp [Value.columnPart, columnField?, named]

/-- The type of a column is the same in either form. -/
theorem DescribedAs.columnPart_type (default : Value) :
    column'.columnPart "type" default = column.columnPart "type" default := by
  -- A record has the entry by which it describes the column.
  cases described with
  | same => rfl
  | record _ typed => simp [Value.columnPart, columnField?, typed]

/-- Templates find the same name in either form. -/
theorem DescribedAs.member_name : column'.member "name" = column.member "name" := by
  -- The entry of a record is found where a column has a member of its own.
  cases described with
  | same => rfl
  | record named => simp [Value.member, Value.ownMember?, columnField?, named]

/-- Templates find the same type in either form. -/
theorem DescribedAs.member_type : column'.member "type" = column.member "type" := by
  -- The entry of a record is found where a column has a member of its own.
  cases described with
  | same => rfl
  | record _ typed => simp [Value.member, Value.ownMember?, columnField?, typed]

/-- What takes no records does the same, unless a record stands in place of the column. -/
theorem DescribedAs.eq_or_refused {α : Type} {read : Value → Except Fault α}
    (refuses : ∀ entries, read (.record entries) = .error unnamedRecord) :
    column' = column ∨ read column' = .error unnamedRecord := by
  -- The two forms are the column itself and a record.
  cases described with
  | same => exact .inl rfl
  | record => exact .inr (refuses _)

end

/-- An outcome is as before or a refusal, and it is a success only where nothing was replaced. -/
structure UpToRefusal (refusal : ε) (unreplaced : Prop) (before after : Except ε α) : Prop where
  eq_or_refused : after = before ∨ after = .error refusal
  unreplaced_of_ok : ∀ value, after = .ok value → unreplaced

/-- A refusal is passed on by whatever follows. -/
theorem UpToRefusal.bind {refusal : ε} {unreplaced : Prop} {before after : Except ε α}
    (first : UpToRefusal refusal unreplaced before after) (next : α → Except ε β) :
    UpToRefusal refusal unreplaced (before >>= next) (after >>= next) := by
  -- What follows never sees a refusal, and sees the same value where there is none.
  refine ⟨?_, fun value succeeded => ?_⟩
  · rcases first.eq_or_refused with same | refused
    · exact .inl (by rw [same])
    · exact .inr (by rw [refused]; rfl)
  · cases after with
    | error fault => cases succeeded
    | ok passed => exact first.unreplaced_of_ok passed rfl

/-- What fails in any case is as before. -/
theorem UpToRefusal.of_error (refusal : ε) (unreplaced : Prop) (fault : ε) :
    UpToRefusal refusal unreplaced (.error fault : Except ε α) (.error fault) :=
  ⟨.inl rfl, fun _ succeeded => by cases succeeded⟩

/-- What takes no records reads columns in any form alike, or stops at the first record. -/
theorem mapM_upToRefusal {columns columns' : List Value} {α : Type}
    {read : Value → Except Fault α} (described : List.Forall₂ DescribedAs columns columns')
    (refuses : ∀ entries, read (.record entries) = .error unnamedRecord) :
    UpToRefusal unnamedRecord (columns' = columns) (columns.mapM read) (columns'.mapM read) := by
  -- The reading stops at the first record, unless a column in front of it stops it.
  induction described with
  | nil => exact ⟨.inl rfl, fun _ _ => rfl⟩
  | @cons column column' rest rest' first _ ih =>
    rw [List.mapM_cons, List.mapM_cons]
    rcases first.eq_or_refused refuses with rfl | refused
    · -- The columns in front of a record are read as ever, and may stop the reading themselves.
      cases read column' with
      | error fault => exact .of_error _ _ fault
      | ok value =>
        obtain ⟨same, unreplaced⟩ := ih.bind fun values => pure (value :: values)
        exact ⟨same, fun values succeeded => by rw [unreplaced values succeeded]⟩
    · -- Here is the first record, and the reading ends.
      rw [refused]
      exact ⟨.inr rfl, fun _ succeeded => by cases succeeded⟩

namespace Fragment

variable {columns columns' : List Value} (described : List.Forall₂ DescribedAs columns columns')
include described

/-- The column list is as before, or refused for a record in place of a column. -/
theorem columnNamesOf_described :
    UpToRefusal unnamedRecord (columns' = columns) (columnNamesOf (.list columns))
      (columnNamesOf (.list columns')) :=
  (mapM_upToRefusal described fun _ => rfl).bind _

/-- The aliased list is as before, or refused for a record in place of a column. -/
theorem aliasedColumnsOf_described (table : Value) :
    UpToRefusal unnamedRecord (columns' = columns) (aliasedColumnsOf table (.list columns))
      (aliasedColumnsOf table (.list columns')) :=
  (mapM_upToRefusal described fun _ => rfl).bind _

end Fragment

end Tablewright
