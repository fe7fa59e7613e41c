import Tablewright.Text.Basic

/-! Cutting joined texts at their separator gives back the texts. -/

namespace Tablewright.Text

section

variable {first : Char} {others : List Char}

/-- What is still to be left out of a separator is left out. -/
theorem cutFrom_length_append (separator skipped rest : List Char) :
    cutFrom separator skipped.length (skipped ++ rest) = cutFrom separator 0 rest := by
  -- The induction is on what is left out, one code point at a time.
  induction skipped with
  | nil => rfl
  | cons c skipped ih => rw [List.length_cons, List.cons_append, cutFrom, ih]

/-- A separator ends one part and begins the next one. -/
theorem cutFrom_separator (rest : List Char) :
    cutFrom (first :: others) 0 (first :: others ++ rest) =
      [] :: cutFrom (first :: others) 0 rest := by
  -- The separator stands here in full, so a part ends, and the rest of it is left out.
  have begins : (first :: others).isPrefixOf (first :: (others ++ rest)) := by
    rw [List.isPrefixOf_iff_prefix, ← List.cons_append]
    exact List.prefix_append ..
  rw [List.cons_append, cutFrom, if_pos begins, List.length_cons, Nat.add_sub_cancel,
    cutFrom_length_append]

/-- A text without the first code point of the separator is not cut itself. -/
theorem cutFrom_append {part : List Char} (free : first ∉ part) (rest : List Char) :
    cutFrom (first :: others) 0 (part ++ rest) =
      (cutFrom (first :: others) 0 rest).modifyHead (part ++ ·) := by
  -- The induction is on the part, at none of whose code points a separator begins.
  induction part with
  | nil =>
    rw [List.nil_append]
    cases cutFrom (first :: others) 0 rest <;> rfl
  | cons c part ih =>
    rw [List.mem_cons, not_or] at free
    -- No separator begins with this code point, so it joins the part that goes on behind it.
    have inside : ¬ (first :: others).isPrefixOf (c :: (part ++ rest)) := by
      simp [List.isPrefixOf, free.1]
    rw [List.cons_append, cutFrom, if_neg inside, ih free.2, List.modifyHead_modifyHead]
    rfl

/-- Joined parts without the first code point of the separator are cut into those parts. -/
theorem cutFrom_intercalate {parts : List (List Char)} (filled : parts ≠ [])
    (free : ∀ part ∈ parts, first ∉ part) :
    cutFrom (first :: others) 0 ((first :: others).intercalate parts) = parts := by
  -- The induction is on the parts; no separator begins inside of one.
  induction parts with
  | nil => exact absurd rfl filled
  | cons part rest ih =>
    have own := free part (by simp)
    cases rest with
    -- The last part ends where the text does.
    | nil =>
      have whole : cutFrom (first :: others) 0 (part ++ []) =
          (cutFrom (first :: others) 0 []).modifyHead (part ++ ·) := cutFrom_append own []
      simpa [cutFrom] using whole
    | cons next more =>
      have later := ih (by simp) fun other member => free other (by simp [member])
      rw [List.intercalate_cons_cons, List.append_assoc, cutFrom_append own, cutFrom_separator,
        later]
      simp

end

/-- Joined texts are cut into those texts when none holds the separator's first code point. -/
theorem split_intercalate {separator : String} {first : Char} {others : List Char}
    (spelled : separator.toList = first :: others) {texts : List String} (filled : texts ≠ [])
    (free : ∀ text ∈ texts, first ∉ text.toList) :
    split separator (separator.intercalate texts) = texts := by
  -- Texts are cut as the lists of their code points are.
  have cut : cutFrom (first :: others) 0
      ((first :: others).intercalate (texts.map String.toList)) = texts.map String.toList :=
    cutFrom_intercalate (by simpa using filled) (by simpa using free)
  rw [split, String.toList_intercalate, spelled, cut, List.map_map]
  simp [Function.comp_def]

end Tablewright.Text
