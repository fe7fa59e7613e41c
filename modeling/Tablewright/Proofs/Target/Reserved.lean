import Tablewright.Proofs.Naming.Shape
import Tablewright.Proofs.Target.Identifier

/-! Words with a meaning: type names take none of them, variables only by being spelled so. -/

namespace Tablewright.Target

open Naming

/-- A type name begins with no small letter of ASCII. -/
theorem not_isLower_head_typeName (name : String) :
    ∀ c ∈ (typeName name).toList.head?, ¬ c.isLower := by
  -- The first code point is a title form, and no title form of any code point is a small letter.
  intro c first
  rw [typeName, String.toList_ofList] at first
  rcases typeChars_cases name.toList with empty | ⟨d, others, begins⟩
  · simp [empty] at first
  · rw [begins, List.head?_cons, Option.mem_some_iff] at first
    exact first ▸ Text.not_isLower_titled d

/-- All words with a meaning begin with a small letter. -/
theorem isLower_head_of_listed : ∀ word ∈ reservedWords ++ predeclared,
    ∃ c ∈ word.toList.head?, c.isLower := by
  simp [reservedWords, predeclared]

/-- No type name has a meaning already. -/
theorem typeName_not_listed (name : String) : typeName name ∉ reservedWords ++ predeclared := by
  -- All listed words begin with a small letter, and no type name does.
  intro listed
  obtain ⟨c, first, small⟩ := isLower_head_of_listed _ listed
  exact not_isLower_head_typeName name c first small

/-- Nothing can be wrong with the meaning of a type name. -/
theorem meaningProblems_typeName (name : String) : meaningProblems (typeName name) = [] :=
  meaningProblems_eq_nil_iff.mpr (by simpa using typeName_not_listed name)

/-- The type name of a name is empty exactly when the name holds nothing but underscores. -/
theorem typeName_eq_empty_iff {name : String} :
    typeName name = "" ↔ ∀ c ∈ name.toList, c = '_' := by
  -- A type name has one code point for each code point of the name that is no underscore.
  rw [← String.toList_inj, typeName, String.toList_ofList, String.toList_empty,
    ← List.length_eq_zero_iff, length_typeChars, List.length_eq_zero_iff, List.filter_eq_nil_iff]
  exact forall₂_congr fun c _ => by rw [decide_eq_true_iff, Decidable.not_not, separator]

/-- The one thing that can be wrong with a type name is its shape. -/
theorem nameProblems_typeName (name : String) :
    nameProblems (typeName name) =
      if typeName name = "" then [.empty] else shapeProblems (typeName name) := by
  rw [nameProblems, meaningProblems_typeName, List.append_nil]

/-- Reserved words are not empty and hold small letters only. -/
theorem small_of_mem_reservedWords : ∀ word ∈ reservedWords,
    word ≠ "" ∧ ∀ c ∈ word.toList, c.isLower := by
  simp [reservedWords]

/-- A type name is no word with a meaning, so it is empty, or no identifier, or nothing is wrong
with it; and a variable is a reserved word exactly when that word is the only segment. -/
theorem only_variables_take_reserved_words (name : String) :
    (typeName name ∉ reservedWords ∧ typeName name ∉ predeclared) ∧
    (nameProblems (typeName name) = [.empty] ↔ ∀ c ∈ name.toList, c = '_') ∧
    (nameProblems (typeName name) = [.invalid (typeName name)] ↔
      typeName name ≠ "" ∧ ¬ Text.isIdentifier (typeName name)) ∧
    (nameProblems (typeName name) = [] ↔
      (∃ c ∈ name.toList, c ≠ '_') ∧ Text.isIdentifier (typeName name)) ∧
    (variableName name ∈ reservedWords ↔
      ∃ word ∈ reservedWords, segments name.toList = [word.toList]) := by
  -- A type name is in neither of the two lists of words.
  have unlisted := typeName_not_listed name
  have filled : (∃ c ∈ name.toList, c ≠ '_') ↔ typeName name ≠ "" := by
    rw [Ne, typeName_eq_empty_iff]
    simp
  rw [List.mem_append, not_or] at unlisted
  refine ⟨unlisted, ?_, ?_, ?_, variableName_mem_iff small_of_mem_reservedWords⟩
  -- The name is empty, or its shape alone decides.
  all_goals
    rw [nameProblems_typeName]
    by_cases bare : typeName name = ""
  · rw [if_pos bare, ← typeName_eq_empty_iff]
    exact iff_of_true rfl bare
  · rw [if_neg bare, ← typeName_eq_empty_iff]
    refine iff_of_false (fun same => ?_) bare
    -- What is said of a shape is never that nothing is there.
    rw [shapeProblems] at same
    split at same <;> simp at same
  · rw [if_pos bare]
    simp [bare]
  · rw [if_neg bare, shapeProblems]
    split <;> simp_all
  · rw [if_pos bare, filled]
    simp [bare]
  · rw [if_neg bare, shapeProblems_eq_nil_iff, filled, and_iff_right bare]

/-- Predeclared words can arise as variables from two segments, as a digit has no capital. -/
example : variableName "int_8" = "int8" ∧ "int8" ∈ predeclared := by
  decide +kernel

end Tablewright.Target
