import Tablewright.Proofs.Naming
import Tablewright.Proofs.Text.Case

/-! The shape of derived names: they lose the underscores of their names, and derive no further. -/

namespace Tablewright.Naming

/-- Cutting a name takes the separators out of it and nothing else. -/
theorem flatten_pieces (name : List Char) :
    (pieces name).flatten = name.filter fun c => c ≠ separator := by
  -- The induction is on the name, whose first code point is a separator or stays.
  induction name with
  | nil => rfl
  | cons first rest ih =>
    rw [pieces]
    by_cases cut : first = separator
    · rw [if_pos cut, List.flatten_cons, ih, List.nil_append]
      simp [cut]
    · rw [if_neg cut]
      -- The first code point joins the first piece of the rest, whatever that piece is.
      cases cutRest : pieces rest with
      | nil => exact absurd cutRest (pieces_ne_nil rest)
      | cons head tail =>
        rw [cutRest, List.flatten_cons] at ih
        simpa [cut] using ih

/-- The segments of a name hold together all of it but the separators. -/
theorem flatten_segments (name : List Char) :
    (segments name).flatten = name.filter fun c => c ≠ separator := by
  rw [segments, List.flatten_filter_not_isEmpty, flatten_pieces]

/-- The inner form of a segment is as long as the segment. -/
@[simp] theorem length_inner (segment : List Char) : (inner segment).length = segment.length := by
  rw [inner]
  -- The capitals of `id` are two as well, and a form in title case is one code point.
  split
  · simp_all [idSegment]
  · cases segment <;> rfl

/-- Inner forms in a row are as long as their segments. -/
theorem length_flatMap_inner (words : List (List Char)) :
    (words.flatMap inner).length = words.flatten.length := by
  simp [List.length_flatMap, List.length_flatten]

/-- A segment that holds no separator has none in its inner form. -/
theorem separator_not_mem_inner {segment : List Char} (whole : separator ∉ segment) :
    separator ∉ inner segment := by
  -- The inner form of `id` is known, and any other changes the first code point alone.
  rw [inner]
  split
  · decide
  · cases segment with
    | nil => exact List.not_mem_nil
    | cons first rest =>
      -- Title case could bring a separator in only at the front, and only from a separator.
      rw [List.mem_cons, not_or] at whole
      rw [capitalized, List.mem_cons, not_or]
      exact ⟨fun same => whole.1 (Text.titled_eq_underscore_iff.mp same.symm).symm, whole.2⟩

/-- Inner forms of segments hold no separator. -/
theorem separator_not_mem_flatMap_inner {words : List (List Char)}
    (whole : ∀ word ∈ words, separator ∉ word) : separator ∉ words.flatMap inner := by
  -- What stands in the row stands in the form of one of the words.
  intro inside
  obtain ⟨word, member, part⟩ := List.mem_flatMap.mp inside
  exact separator_not_mem_inner (whole word member) part

section

variable (name : List Char)

/-- A type name holds no separator. -/
theorem separator_not_mem_typeChars : separator ∉ typeChars name :=
  separator_not_mem_flatMap_inner fun _ => separator_not_mem_segment

/-- The name of a variable holds no separator. -/
theorem separator_not_mem_variableChars : separator ∉ variableChars name := by
  -- Segments hold no separator, and neither do their inner forms.
  have whole : ∀ segment ∈ segments name, separator ∉ segment :=
    fun _ => separator_not_mem_segment
  rw [variableChars]
  cases cut : segments name with
  | nil => exact List.not_mem_nil
  -- The first segment stands as it is, and the others in their inner forms.
  | cons first rest =>
    rw [cut, List.forall_mem_cons] at whole
    rw [List.mem_append, not_or]
    exact ⟨whole.1, separator_not_mem_flatMap_inner whole.2⟩

/-- A type name is as long as its name without the separators. -/
theorem length_typeChars :
    (typeChars name).length = (name.filter fun c => c ≠ separator).length := by
  rw [typeChars, length_flatMap_inner, flatten_segments]

/-- The name of a variable is as long as its name without the separators. -/
theorem length_variableChars :
    (variableChars name).length = (name.filter fun c => c ≠ separator).length := by
  rw [variableChars, ← flatten_segments]
  -- The first segment is taken as it is, and each later one in an inner form of its length.
  cases segments name with
  | nil => rfl
  | cons first rest =>
    rw [List.length_append, length_flatMap_inner, List.flatten_cons, List.length_append]

variable {name}

/-- A name without separators is the variable derived from it. -/
theorem variableChars_of_not_mem (whole : separator ∉ name) : variableChars name = name := by
  -- The name is empty or its only segment, which begins the variable as it is.
  by_cases empty : name = []
  · rw [empty]
    rfl
  · rw [variableChars, segments_of_not_mem empty whole]
    exact List.append_nil name

/-- A name without separators is one segment of the type name derived from it. -/
theorem typeChars_of_not_mem (whole : separator ∉ name) : typeChars name = inner name := by
  -- The name is empty or its only segment.
  by_cases empty : name = []
  · rw [empty]
    rfl
  · rw [typeChars, segments_of_not_mem empty whole]
    exact List.append_nil (inner name)

variable (name)

/-- A type name is in its inner form already. -/
theorem inner_typeChars : inner (typeChars name) = typeChars name := by
  -- Without segments there is nothing to be changed.
  rcases typeChars_cases name with empty | ⟨c, others, begins⟩
  · rw [empty]
    rfl
  · -- The first code point is in title case, so it begins no `id` and stays as it is.
    rw [begins, inner, if_neg, capitalized, Text.titled_titled]
    intro id
    refine Text.not_isLower_titled c ?_
    rw [(List.cons.inj id).1]
    decide

/-- The type name of a type name is the type name itself. -/
theorem typeChars_typeChars : typeChars (typeChars name) = typeChars name := by
  rw [typeChars_of_not_mem (separator_not_mem_typeChars name), inner_typeChars]

variable {name}

/-- But for a leading `id`, a type name is the variable with its first code point in title case. -/
theorem typeChars_eq_capitalized (other : (segments name).head? ≠ some idSegment) :
    typeChars name = capitalized (variableChars name) := by
  -- Both names are made of the same segments, and differ in the first one.
  rw [typeChars, variableChars]
  cases cut : segments name with
  | nil => rfl
  | cons first rest =>
    have found : first ∈ segments name := cut ▸ List.mem_cons_self ..
    obtain ⟨c, behind, rfl⟩ := List.exists_cons_of_ne_nil (ne_nil_of_mem_segments found)
    have whole : c :: behind ≠ idSegment := fun id => other (by rw [cut, id, List.head?_cons])
    -- Only the first segment is taken in another form, in title case against as it is.
    rw [List.flatMap_cons, inner, if_neg whole]
    rfl

/-- Behind a leading `id` the type name and the variable go on alike. -/
theorem exists_rest_of_idSegment (leading : (segments name).head? = some idSegment) :
    ∃ rest, variableChars name = ['i', 'd'] ++ rest ∧ typeChars name = ['I', 'D'] ++ rest := by
  -- Behind the first segment both names are made in the same way.
  obtain ⟨others, cut⟩ := List.head?_eq_some_iff.mp leading
  refine ⟨others.flatMap inner, ?_, ?_⟩
  · rw [variableChars, cut]
    rfl
  · rw [typeChars, cut, List.flatMap_cons]
    rfl

end

/-- Derived names hold all of their name but the underscores, are derived from themselves, and
differ in how they begin. -/
theorem derived_shape (name : String) :
    ('_' ∉ (typeName name).toList ∧ '_' ∉ (variableName name).toList) ∧
    ((typeName name).length = (name.toList.filter fun c => c ≠ '_').length ∧
      (variableName name).length = (name.toList.filter fun c => c ≠ '_').length) ∧
    (typeName (typeName name) = typeName name ∧
      variableName (variableName name) = variableName name ∧
      variableName (typeName name) = typeName name) ∧
    ((segments name.toList).head? ≠ some idSegment →
      (typeName name).toList = capitalized (variableName name).toList) ∧
    ((segments name.toList).head? = some idSegment →
      ∃ rest, variableName name = "id" ++ rest ∧ typeName name = "ID" ++ rest) := by
  -- Without separators nothing is cut again, so only title case could change a derived name.
  simp only [typeName, variableName, String.toList_ofList, String.length_ofList,
    typeChars_typeChars, variableChars_of_not_mem (separator_not_mem_variableChars _),
    variableChars_of_not_mem (separator_not_mem_typeChars _)]
  refine ⟨⟨separator_not_mem_typeChars _, separator_not_mem_variableChars _⟩,
    ⟨length_typeChars _, length_variableChars _⟩, ⟨trivial, trivial, trivial⟩,
    typeChars_eq_capitalized, fun leading => ?_⟩
  -- Behind a leading `id` both names go on alike.
  obtain ⟨rest, varied, typed⟩ := exists_rest_of_idSegment leading
  refine ⟨String.ofList rest, ?_, ?_⟩
  · rw [varied, String.ofList_append]
  · rw [typed, String.ofList_append]

/-- A first segment keeps its sharp s, which has no form of one code point, and `id` is told apart
in front of a letter whose title-case form is none of its upper-case form. -/
theorem derived_shape_sharp :
    (segments "ß__id".toList).head? ≠ some idSegment ∧
    (typeName "ß__id").toList = capitalized (variableName "ß__id").toList ∧
    (typeName "ß__id").length = 3 ∧
    (segments "_id_ǆ".toList).head? = some idSegment ∧
    ∃ rest, variableName "_id_ǆ" = "id" ++ rest ∧ typeName "_id_ǆ" = "ID" ++ rest := by
  -- The shape is the general one; which case of it applies is computed from the segments.
  have other : (segments "ß__id".toList).head? ≠ some idSegment := by decide +kernel
  have leading : (segments "_id_ǆ".toList).head? = some idSegment := by decide +kernel
  obtain ⟨-, ⟨length, -⟩, -, titled, -⟩ := derived_shape "ß__id"
  obtain ⟨-, -, -, -, behind⟩ := derived_shape "_id_ǆ"
  exact ⟨other, titled other, length.trans (by decide +kernel), leading, behind leading⟩

end Tablewright.Naming
