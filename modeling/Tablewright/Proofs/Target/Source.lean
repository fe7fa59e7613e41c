import Mathlib.Algebra.GroupWithZero.Nat
import Tablewright.Proofs.Text.Count
import Tablewright.Target.Templates

/-! Lines as one text: what it begins with, its code points, and how often it holds one. -/

namespace Tablewright.Target

/-- No lines give no text. -/
@[simp] theorem sourceOf_nil : sourceOf [] = "" := rfl

/-- A text of lines begins with its first line and the end of that line. -/
theorem sourceOf_cons (line : String) (lines : List String) :
    sourceOf (line :: lines) = line ++ "\n" ++ sourceOf lines := by
  simp [sourceOf]

/-- Further lines follow the text of the earlier ones. -/
theorem sourceOf_append (lines others : List String) :
    sourceOf (lines ++ others) = sourceOf lines ++ sourceOf others := by
  simp [sourceOf]

/-- The code points of lines are those of each line, with a line end behind it. -/
theorem toList_sourceOf (lines : List String) :
    (sourceOf lines).toList = lines.flatMap fun line => line.toList ++ ['\n'] := by
  simp [sourceOf, String.toList_join, List.flatMap_map]

/-- A text of lines holds what its lines hold, beside the ends of the lines. -/
theorem occurrences_sourceOf {c : Char} (other : c ≠ '\n') (lines : List String) :
    Text.occurrences c (sourceOf lines) = (lines.map (Text.occurrences c)).sum := by
  -- The induction is on the lines, each of which has an end of its own.
  induction lines with
  | nil => rfl
  | cons line rest ih =>
    have ends : c ∉ "\n".toList := by simpa using other
    rw [sourceOf_cons, Text.occurrences_append, Text.occurrences_append, ih,
      Text.occurrences_eq_zero.mpr ends, List.map_cons, List.sum_cons, Nat.add_zero]

end Tablewright.Target
