import Tablewright.Proofs.Outcome
import Tablewright.Template.Shelf

/-! Relations between outcomes of runs that last from one step to the next. -/

namespace Tablewright.Template

/-- No template to be inserted is at fault. -/
abbrev Plain (result : Except RunFault α) : Prop :=
  Avoids (fun fault => ∃ cause, fault = .unusable cause) result

/-- A relation between outcomes, for values in any relation, that holds between two runs when it
holds between their steps. -/
structure Lasting
    (rel : ∀ {α β : Type}, (α → β → Prop) → Except RunFault α → Except RunFault β → Prop) :
    Prop where
  /-- Steps that insert nothing and are the same up to their values are related. -/
  same : ∀ {α β : Type} {r : α → β → Prop} {result : Except RunFault α}
    {result' : Except RunFault β},
    Plain result → SameUpTo r result result' → rel r result result'
  /-- Related steps go on with related values, or need not go on in step. -/
  bind : ∀ {α β γ δ : Type} {r : α → β → Prop} {s : γ → δ → Prop} {first : Except RunFault α}
    {first' : Except RunFault β} {next : α → Except RunFault γ} {next' : β → Except RunFault δ},
    rel r first first' → (∀ value value', r value value' → rel s (next value) (next' value')) →
      rel s (first >>= next) (first' >>= next')

/-- To be the same up to values is such a relation. -/
theorem Lasting.sameUpTo : Lasting fun r result result' => SameUpTo r result result' :=
  ⟨fun _ same => same, fun first following => first.bind following⟩

section

variable {rel : ∀ {α β : Type}, (α → β → Prop) → Except RunFault α → Except RunFault β → Prop}
  (lasting : Lasting rel)
include lasting

/-- A step that inserts nothing is related to itself. -/
theorem Lasting.refl {result : Except RunFault α} (plain : Plain result) :
    rel (· = ·) result result :=
  lasting.same plain (.eq result)

/-- Related steps that go on with the same value make runs that are related. -/
theorem Lasting.andThen {s : γ → δ → Prop} {first first' : Except RunFault α}
    {next : α → Except RunFault γ} {next' : α → Except RunFault δ}
    (begun : rel (· = ·) first first') (following : ∀ value, rel s (next value) (next' value)) :
    rel s (first >>= next) (first' >>= next') :=
  lasting.bind begun fun value _ same => same ▸ following value

end

/-- A success is not at fault. -/
theorem plain_ok (value : α) : Plain (.ok value) := avoids_ok _ value

/-- An operation on values is not at fault for a template to be inserted. -/
theorem plain_run (result : Except Fault α) : Plain (run result) := by
  -- Faults of values are told as such, never as those of a template.
  rintro _ ⟨cause, rfl⟩ same
  cases result <;> cases same

/-- A filter, known or not, inserts nothing. -/
theorem plain_applyFilter (name : String) (subject : Value) (arguments : List Value) :
    Plain (applyFilter name subject arguments) := by
  unfold applyFilter
  split
  · exact plain_run _
  · exact avoids_error (by simp)

/-- A test, known or not, inserts nothing. -/
theorem plain_applyTest (name : String) (subject : Value) (arguments : List Value) :
    Plain (applyTest name subject arguments) := by
  unfold applyTest
  split
  · exact plain_run _
  · exact avoids_error (by simp)

end Tablewright.Template
