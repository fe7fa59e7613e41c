import Tablewright.Proofs.Text.Identifier
import Tablewright.Target.Identifier

/-! Which names nothing is wrong with: identifiers that mean nothing in Go yet. -/

namespace Tablewright.Target

/-- Nothing is wrong with the shape of a name exactly when it is an identifier. -/
theorem shapeProblems_eq_nil_iff {name : String} :
    shapeProblems name = [] ↔ Text.isIdentifier name := by
  rw [shapeProblems]
  split <;> simp_all

/-- Nothing is wrong with the meaning of a name exactly when neither table of words holds it. -/
theorem meaningProblems_eq_nil_iff {name : String} :
    meaningProblems name = [] ↔ name ∉ reservedWords ∧ name ∉ predeclared := by
  -- The tables are looked at one after another, and each tells of its own words.
  rw [meaningProblems]
  split
  · simp_all
  · split <;> simp_all

/-- Nothing is wrong with a name exactly when it is an identifier without a meaning. -/
theorem nameProblems_eq_nil_iff {name : String} :
    nameProblems name = [] ↔
      Text.isIdentifier name ∧ name ∉ reservedWords ∧ name ∉ predeclared := by
  -- A name is judged by its shape and then by its meaning.
  rw [nameProblems]
  split
  · -- The empty name is told on its own, and is no identifier either.
    rename_i empty
    subst empty
    simp [Text.isIdentifier, Text.isIdentifierRun]
  · rw [List.append_eq_nil_iff, shapeProblems_eq_nil_iff, meaningProblems_eq_nil_iff]

/-- A name that can be used is an identifier. -/
theorem isIdentifier_of_nameProblems {name : String} (fit : nameProblems name = []) :
    Text.isIdentifier name :=
  (nameProblems_eq_nil_iff.mp fit).1

end Tablewright.Target
