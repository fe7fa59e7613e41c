/-! How often a code point stands in a text that is put together from other texts. -/

namespace Tablewright.Text

/-- How often a code point stands in a text. -/
def occurrences (c : Char) (text : String) : Nat := text.toList.count c

/-- A code point occurs never exactly when the text does not hold it. -/
theorem occurrences_eq_zero {c : Char} {text : String} :
    occurrences c text = 0 ↔ c ∉ text.toList :=
  List.count_eq_zero

/-- Two texts hold together what each of them holds. -/
theorem occurrences_append (c : Char) (text other : String) :
    occurrences c (text ++ other) = occurrences c text + occurrences c other := by
  rw [occurrences, String.toList_append, List.count_append]
  rfl

/-- A code point that two texts lack is none of both together. -/
theorem not_mem_append {c : Char} {text other : String} (front : c ∉ text.toList)
    (back : c ∉ other.toList) : c ∉ (text ++ other).toList := by
  rw [String.toList_append, List.mem_append, not_or]
  exact ⟨front, back⟩

/-- Joined texts without a code point do not hold it when the separator does not either. -/
theorem occurrences_intercalate {c : Char} {separator : String} {texts : List String}
    (apart : c ∉ separator.toList) (free : ∀ text ∈ texts, c ∉ text.toList) :
    occurrences c (separator.intercalate texts) = 0 := by
  -- The induction is on the texts, with the separator between the first and the others.
  induction texts with
  | nil => rfl
  | cons text rest ih =>
    have own := occurrences_eq_zero.mpr (free text (by simp))
    have later := ih fun other member => free other (by simp [member])
    cases rest with
    | nil => simpa using own
    | cons next others =>
      rw [String.intercalate_cons_cons, occurrences_append, occurrences_append, own, later,
        occurrences_eq_zero.mpr apart]

/-- A written number holds digits only. -/
theorem not_mem_toString {c : Char} (other : c.isDigit = false) (n : Nat) :
    c ∉ (toString n).toList := by
  -- A number is written by its digits, and all of them are digits.
  intro member
  rw [Nat.toString_eq_ofList_toDigits, String.toList_ofList] at member
  have digit := Nat.isDigit_of_mem_toDigits (by decide) (by decide) member
  rw [other] at digit
  cases digit

end Tablewright.Text
