import Tablewright.Naming
import Tablewright.Proofs.Text.Case

/-! Derived names: how a name is cut into segments, and what of it comes through to them. -/

namespace Tablewright.Naming

/-- Even of nothing there is one piece. -/
theorem pieces_ne_nil (name : List Char) : pieces name ≠ [] := by
  -- A code point begins a piece of its own or joins the first one of the rest.
  cases name with
  | nil => simp [pieces]
  | cons c rest =>
    rw [pieces]
    split
    · simp
    · split <;> simp

/-- A separator cuts a name whatever stands around it. -/
theorem pieces_append_separator (name other : List Char) :
    pieces (name ++ separator :: other) = pieces name ++ pieces other := by
  -- The induction is on the name in front, of which the separator ends the last piece.
  induction name with
  | nil => simp [pieces]
  | cons c rest ih =>
    rw [List.cons_append, pieces, pieces, ih]
    by_cases cut : c = separator
    · -- A separator in front begins a piece of nothing, on both sides alike.
      simp [cut]
    · -- The code point joins the first piece of the rest, which is the same on both sides.
      cases first : pieces rest with
      | nil => exact absurd first (pieces_ne_nil rest)
      | cons piece others => simp [cut]

/-- The segments around a separator are those of both sides. -/
theorem segments_append_separator (name other : List Char) :
    segments (name ++ separator :: other) = segments name ++ segments other := by
  rw [segments, pieces_append_separator, List.filter_append]
  rfl

/-- A name without a separator is one piece. -/
theorem pieces_of_not_mem {name : List Char} (whole : separator ∉ name) : pieces name = [name] := by
  -- Every code point joins the one piece that the rest is.
  induction name with
  | nil => rfl
  | cons c rest ih =>
    rw [List.mem_cons, not_or] at whole
    obtain ⟨other, later⟩ := whole
    rw [pieces, ih later, if_neg (Ne.symm other)]

/-- A name without a separator is its only segment. -/
theorem segments_of_not_mem {name : List Char} (filled : name ≠ []) (whole : separator ∉ name) :
    segments name = [name] := by
  rw [segments, pieces_of_not_mem whole]
  simp [filled]

/-- No segment is empty. -/
theorem ne_nil_of_mem_segments {name segment : List Char} (found : segment ∈ segments name) :
    segment ≠ [] := by
  rintro rfl
  simpa using (List.mem_filter.mp found).2

/-- What stands in a piece of a name stands in the name. -/
theorem mem_of_mem_pieces {c : Char} {name piece : List Char} (found : piece ∈ pieces name)
    (inside : c ∈ piece) : c ∈ name := by
  -- The induction is on the name, whose first code point may belong to the piece.
  induction name generalizing piece with
  | nil =>
    rw [pieces, List.mem_singleton] at found
    rwa [found] at inside
  | cons first rest ih =>
    rw [pieces] at found
    split at found
    · -- In front of a separator nothing is cut off.
      rcases List.mem_cons.mp found with rfl | later
      · cases inside
      · exact List.mem_cons_of_mem _ (ih later inside)
    · cases cutRest : pieces rest with
      | nil => exact absurd cutRest (pieces_ne_nil rest)
      | cons head tail =>
        rw [cutRest] at found ih
        -- The first piece has the first code point in front, and all others are pieces of the rest.
        rcases List.mem_cons.mp found with rfl | behind
        · rcases List.mem_cons.mp inside with rfl | within
          · exact List.mem_cons_self ..
          · exact List.mem_cons_of_mem _ (ih (List.mem_cons_self ..) within)
        · exact List.mem_cons_of_mem _ (ih (List.mem_cons_of_mem _ behind) inside)

/-- What stands in a segment of a name stands in the name. -/
theorem mem_of_mem_segments {c : Char} {name segment : List Char}
    (found : segment ∈ segments name) (inside : c ∈ segment) : c ∈ name :=
  mem_of_mem_pieces (List.mem_filter.mp found).1 inside

/-- No separator stands in a piece of a name. -/
theorem separator_not_mem_piece {name piece : List Char} (found : piece ∈ pieces name) :
    separator ∉ piece := by
  -- The induction is on the name, and its first code point is a separator or joins a piece.
  induction name generalizing piece with
  | nil =>
    rw [pieces, List.mem_singleton] at found
    simp [found]
  | cons first rest ih =>
    rw [pieces] at found
    by_cases cut : first = separator
    · -- In front of a separator stands the empty piece.
      rw [if_pos cut] at found
      rcases List.mem_cons.mp found with rfl | later
      · exact List.not_mem_nil
      · exact ih later
    · rw [if_neg cut] at found
      -- The first code point, which is no separator, joins the first piece of the rest.
      cases cutRest : pieces rest with
      | nil => exact absurd cutRest (pieces_ne_nil rest)
      | cons head tail =>
        rw [cutRest] at found ih
        rcases List.mem_cons.mp found with rfl | behind
        · rw [List.mem_cons, not_or]
          exact ⟨Ne.symm cut, ih (List.mem_cons_self ..)⟩
        · exact ih (List.mem_cons_of_mem _ behind)

/-- No separator stands in a segment of a name. -/
theorem separator_not_mem_segment {name segment : List Char} (found : segment ∈ segments name) :
    separator ∉ segment :=
  separator_not_mem_piece (List.mem_filter.mp found).1

/-- Inside a derived name every segment begins with its first code point in title case. -/
theorem inner_cons (c : Char) (rest : List Char) :
    ∃ others, inner (c :: rest) = Text.titled c :: others := by
  -- Only `id` has an inner form of its own.
  by_cases id : c :: rest = idSegment
  · -- The capitals begin with the title-case form of their small letter.
    obtain ⟨rfl, rfl⟩ := List.cons.inj id
    exact ⟨['D'], by decide⟩
  · exact ⟨rest, by rw [inner, if_neg id, capitalized]⟩

/-- A type name is empty, or begins with a code point in title case. -/
theorem typeChars_cases (name : List Char) :
    typeChars name = [] ∨ ∃ c others, typeChars name = Text.titled c :: others := by
  -- Without segments there is nothing to derive from.
  rw [typeChars]
  cases cut : segments name with
  | nil => exact .inl rfl
  | cons first rest =>
    -- The first segment is not empty, so the name begins as its inner form does.
    have found : first ∈ segments name := cut ▸ List.mem_cons_self ..
    obtain ⟨c, behind, rfl⟩ := List.exists_cons_of_ne_nil (ne_nil_of_mem_segments found)
    obtain ⟨others, shown⟩ := inner_cons c behind
    exact .inr ⟨c, _, by rw [List.flatMap_cons, shown, List.cons_append]⟩

/-- A variable in small letters throughout goes by the only segment of its name. -/
theorem variableName_eq_iff {name word : String} (filled : word ≠ "")
    (small : ∀ c ∈ word.toList, c.isLower) :
    variableName name = word ↔ segments name.toList = [word.toList] := by
  -- The variable is the first segment as it is, with all others behind it in their inner form.
  rw [← String.toList_inj, variableName, String.toList_ofList, variableChars]
  cases cut : segments name.toList with
  | nil => simpa using Ne.symm filled
  | cons first rest =>
    cases rest with
    | nil => simp
    | cons segment others =>
      -- A second segment would show in title case.
      have found : segment ∈ segments name.toList := by simp [cut]
      obtain ⟨c, behind, rfl⟩ := List.exists_cons_of_ne_nil (ne_nil_of_mem_segments found)
      obtain ⟨more, shown⟩ := inner_cons c behind
      refine iff_of_false (fun same => ?_) (by simp)
      refine Text.not_isLower_titled c (small _ ?_)
      simp [← same, shown]

/-- A variable is one of some words in small letters exactly when that word is the only segment. -/
theorem variableName_mem_iff {name : String} {words : List String}
    (spelled : ∀ word ∈ words, word ≠ "" ∧ ∀ c ∈ word.toList, c.isLower) :
    variableName name ∈ words ↔ ∃ word ∈ words, segments name.toList = [word.toList] := by
  -- Which of the words it is decides which word the only segment is.
  constructor
  · intro taken
    obtain ⟨filled, small⟩ := spelled _ taken
    exact ⟨_, taken, (variableName_eq_iff filled small).mp rfl⟩
  · rintro ⟨word, listed, single⟩
    obtain ⟨filled, small⟩ := spelled word listed
    rwa [(variableName_eq_iff filled small).mpr single]

/-- Cutting a name loses nothing but the separators. -/
theorem mem_pieces {c : Char} {name : List Char} (member : c ∈ name) (other : c ≠ separator) :
    ∃ piece ∈ pieces name, c ∈ piece := by
  -- The induction is on the name, and its first code point is a separator or joins a piece.
  induction name with
  | nil => cases member
  | cons first rest ih =>
    by_cases cut : first = separator
    · -- The separator is not the code point that is looked for.
      have later : c ∈ rest := (List.mem_cons.mp member).resolve_left fun same =>
        other (same.trans cut)
      obtain ⟨piece, found, inside⟩ := ih later
      exact ⟨piece, by simp [pieces, cut, found], inside⟩
    · simp only [pieces, cut, if_false]
      -- The first code point joins the first piece of the rest, whatever pieces there are.
      cases cutRest : pieces rest with
      | nil =>
        rw [cutRest] at ih
        rcases List.mem_cons.mp member with rfl | later
        · exact ⟨[c], by simp, by simp⟩
        · obtain ⟨piece, found, _⟩ := ih later
          cases found
      | cons head tail =>
        rw [cutRest] at ih
        rcases List.mem_cons.mp member with rfl | later
        · exact ⟨c :: head, by simp, by simp⟩
        · obtain ⟨piece, found, inside⟩ := ih later
          rcases List.mem_cons.mp found with rfl | behind
          · -- It stands in the first piece, which only gets longer.
            exact ⟨first :: piece, by simp, by simp [inside]⟩
          · exact ⟨piece, by simp [behind], inside⟩

/-- Every code point of a name but the separators stands in one of its segments. -/
theorem mem_segments {c : Char} {name : List Char} (member : c ∈ name) (other : c ≠ separator) :
    ∃ segment ∈ segments name, c ∈ segment := by
  -- The piece that holds the code point is not empty, so it is a segment.
  obtain ⟨piece, found, inside⟩ := mem_pieces member other
  have filled : !piece.isEmpty := by
    cases piece with
    | nil => cases inside
    | cons first rest => rfl
  exact ⟨piece, List.mem_filter.mpr ⟨found, filled⟩, inside⟩

/-- A code point of a segment shows in its inner form, in title case at most. -/
theorem mem_inner {c : Char} {segment : List Char} (member : c ∈ segment) :
    c ∈ idSegment ∨ c ∈ inner segment ∨ Text.titled c ∈ inner segment := by
  -- The inner form changes nothing but the first code point, unless the segment is `id`.
  by_cases id : segment = idSegment
  · exact .inl (id ▸ member)
  · rw [inner, if_neg id]
    cases segment with
    | nil => cases member
    | cons first rest =>
      rw [capitalized]
      rcases List.mem_cons.mp member with rfl | later
      · -- The first code point shows in title case.
        exact .inr (.inr (by simp))
      · -- All others show as they are.
        exact .inr (.inl (by simp [later]))

/-- A name from which an identifier is derived holds nothing else of ASCII than one may hold. -/
theorem isPlain_of_typeName {name : String} (valid : Text.isIdentifier (typeName name)) {c : Char}
    (member : c ∈ name.toList) (ascii : c.toNat < 128) : Text.isPlain c := by
  -- A separator is plain itself, and any other code point stands in a segment.
  by_cases cut : c = separator
  · subst cut
    decide
  · obtain ⟨segment, found, inside⟩ := mem_segments member cut
    -- Whatever stands in the form of the segment stands in the derived name.
    have shows : ∀ d ∈ inner segment, Text.continuesIdentifier d := by
      intro d part
      apply Text.continues_of_isIdentifier valid
      rw [typeName, String.toList_ofList, typeChars]
      exact List.mem_flatMap.mpr ⟨segment, found, part⟩
    -- How the code point shows tells it from the derived name, or it is a letter of `id`.
    rcases mem_inner inside with id | same | titled
    · have letters : ∀ d ∈ idSegment, Text.isPlain d :=
        List.all_eq_true.mp (by decide)
      exact letters c id
    · exact Text.isPlain_of_continuesIdentifier ascii (.inl (shows c same))
    · exact Text.isPlain_of_continuesIdentifier ascii (.inr (shows _ titled))

end Tablewright.Naming
