import Mathlib.Logic.Relation
import Tablewright.Proofs.Naming

/-! Names joined by an underscore: each is derived by itself, and spare underscores are lost. -/

namespace Tablewright.Naming

/-- The type name of joined names is that of the first and then that of the second. -/
theorem typeChars_append_separator (name other : List Char) :
    typeChars (name ++ separator :: other) = typeChars name ++ typeChars other := by
  rw [typeChars, segments_append_separator, List.flatMap_append]
  rfl

/-- The variable of joined names begins with the first of them that has a segment. -/
theorem variableChars_append_separator (name other : List Char) :
    variableChars (name ++ separator :: other) =
      if segments name = [] then variableChars other
      else variableChars name ++ typeChars other := by
  rw [variableChars, segments_append_separator]
  cases cut : segments name with
  | nil => rfl
  | cons first rest =>
    -- The segments of the second name all stand behind the one that begins the variable.
    simp only [List.cons_append, variableChars, cut, typeChars, List.flatMap_append,
      List.append_assoc, reduceCtorEq, if_false]

/-- A name has no segments when it holds nothing but separators. -/
theorem segments_eq_nil_iff {name : List Char} :
    segments name = [] ↔ ∀ c ∈ name, c = separator := by
  -- A name without segments and a name of separators alone each exclude what the other lacks.
  constructor
  · intro none c member
    refine Classical.byContradiction fun other => ?_
    obtain ⟨segment, found, -⟩ := mem_segments member other
    rw [none] at found
    cases found
  · intro all
    -- A segment would hold a code point of the name that is no separator.
    rw [List.eq_nil_iff_forall_not_mem]
    intro segment found
    obtain ⟨c, rest, rfl⟩ := List.exists_cons_of_ne_nil (ne_nil_of_mem_segments found)
    have inside : c ∈ c :: rest := List.mem_cons_self ..
    exact separator_not_mem_segment found (all c (mem_of_mem_segments found inside) ▸ inside)

/-- One underscore more, at an end of a name or beside another one. -/
inductive Padded : String → String → Prop where
  | front (name : String) : Padded name ("_" ++ name)
  | back (name : String) : Padded name (name ++ "_")
  | beside (name other : String) : Padded (name ++ "_" ++ other) (name ++ "__" ++ other)

/-- A spare underscore adds no segment and takes none away. -/
theorem Padded.segments_eq {name other : String} (padded : Padded name other) :
    segments other.toList = segments name.toList := by
  -- A spare underscore cuts off a name without segments, wherever it stands.
  have bare : segments [] = [] := rfl
  cases padded with
  | front =>
    rw [String.toList_append]
    exact (segments_append_separator [] name.toList).trans (by rw [bare, List.nil_append])
  | back =>
    rw [String.toList_append]
    exact (segments_append_separator name.toList []).trans (by rw [bare, List.append_nil])
  | beside first second =>
    -- Between the two underscores stands an empty name.
    have single : (first ++ "_" ++ second).toList = first.toList ++ separator :: second.toList := by
      simp [separator]
    have double : (first ++ "__" ++ second).toList =
        first.toList ++ separator :: ([] ++ separator :: second.toList) := by
      simp [separator]
    rw [single, double, segments_append_separator, segments_append_separator,
      segments_append_separator, bare, List.nil_append]

/-- Names are the same but for spare underscores, which may come and go any number of times. -/
abbrev Respelled : String → String → Prop := Relation.EqvGen Padded

/-- Names that are the same but for spare underscores have the same segments. -/
theorem Respelled.segments_eq {name other : String} (respelled : Respelled name other) :
    segments other.toList = segments name.toList := by
  -- The induction follows the chain of single underscores from one name to the other.
  induction respelled with
  | rel _ _ padded => exact padded.segments_eq
  | refl => rfl
  | symm _ _ _ ih => exact ih.symm
  | trans _ _ _ _ _ first second => exact second.trans first

/-- Deriving names carries an underscore between two names over to a row of the derived ones, and
does not see spare underscores. -/
theorem derived_of_joined (name other : String) :
    typeName (name ++ "_" ++ other) = typeName name ++ typeName other ∧
    ((∀ c ∈ name.toList, c = '_') →
      variableName (name ++ "_" ++ other) = variableName other) ∧
    ((∃ c ∈ name.toList, c ≠ '_') →
      variableName (name ++ "_" ++ other) = variableName name ++ typeName other) ∧
    typeName (tagName name other) = typeName name ++ typeName other ∧
    ∀ respelling, Respelled name respelling →
      typeName respelling = typeName name ∧ variableName respelling = variableName name := by
  have joined : (name ++ "_" ++ other).toList = name.toList ++ separator :: other.toList := by
    simp [separator]
  -- A tag name is a joined name as well, so both go by the same law.
  have typed : typeName (name ++ "_" ++ other) = typeName name ++ typeName other := by
    rw [typeName, joined, typeChars_append_separator, String.ofList_append]
    rfl
  refine ⟨typed, fun all => ?_, fun other => ?_, typed, fun respelling respelled => ?_⟩
  · -- A first name of underscores has no segment, so the second one begins the variable.
    rw [variableName, joined, variableChars_append_separator, if_pos (segments_eq_nil_iff.mpr all)]
    rfl
  · -- Anything else in the first name begins a segment.
    obtain ⟨c, inside, letter⟩ := other
    have filled : segments name.toList ≠ [] := fun bare =>
      letter (segments_eq_nil_iff.mp bare c inside)
    rw [variableName, joined, variableChars_append_separator, if_neg filled, String.ofList_append]
    rfl
  · -- Both names are made of the segments alone.
    have same := respelled.segments_eq
    constructor
    · rw [typeName, typeChars, same]
      rfl
    · rw [variableName, variableChars, same]
      rfl

/-- The spare underscores in front of the second name are lost, as are those of the first, and a
first name that holds nothing else. -/
theorem derived_of_joined_user :
    Respelled "user_id" "_user__id" ∧
    typeName ("user_id" ++ "_" ++ "__id") = "UserIDID" ∧
    variableName ("user_id" ++ "_" ++ "__id") = "userIDID" ∧
    variableName ("__" ++ "_" ++ "user_id") = "userID" ∧
    typeName "_user__id" = "UserID" ∧ variableName "_user__id" = "userID" := by
  -- The general statement is read at both pairs of names; only single names are computed.
  have respelled : Respelled "user_id" "_user__id" :=
    .trans _ _ _ (.rel _ _ (.beside "user" "id")) (.rel _ _ (.front "user__id"))
  have first : typeName "user_id" = "UserID" ∧ variableName "user_id" = "userID" := by
    decide +kernel
  have second : typeName "__id" = "ID" := by decide +kernel
  obtain ⟨typed, -, varied, -, spare⟩ := derived_of_joined "user_id" "__id"
  obtain ⟨typed', varied'⟩ := spare _ respelled
  obtain ⟨-, bare, -⟩ := derived_of_joined "__" "user_id"
  refine ⟨respelled, ?_, ?_, ?_, typed'.trans first.1, varied'.trans first.2⟩
  · -- The two names are derived from each by itself.
    rw [typed, first.1, second]
    decide
  · -- The first name holds a letter, so the variable begins with it.
    rw [varied ⟨'u', by simp, by decide⟩, first.2, second]
    decide
  · -- A first name of underscores leaves the variable to the second one.
    rw [bare (by simp), first.2]

end Tablewright.Naming
