import Mathlib.Data.String.Basic
import Tablewright.Text.Basic

/-! Texts in increasing order: the same texts, and each below the next one when they all differ. -/

namespace Tablewright.Text

/-- Putting a text in its place adds it to the others. -/
theorem perm_placed (s : String) (texts : List String) : (placed s texts).Perm (s :: texts) := by
  -- The induction is on the texts that come before it.
  induction texts with
  | nil => exact .refl _
  | cons first rest ih =>
    by_cases passed : first < s
    · rw [placed, if_pos passed]
      exact (ih.cons first).trans (.swap s first rest)
    · -- The text stands in front of all that are left.
      rw [placed, if_neg passed]

/-- Sorting changes nothing but the order. -/
theorem perm_sorted (texts : List String) : (sorted texts).Perm texts := by
  -- Each text is put in its place among those behind it.
  induction texts with
  | nil => exact .refl _
  | cons first rest ih =>
    rw [sorted, List.foldr_cons, ← sorted]
    exact (perm_placed first _).trans (ih.cons first)

/-- Putting a text in its place adds that text and no other one. -/
theorem mem_placed {s t : String} {texts : List String} :
    s ∈ placed t texts ↔ s = t ∨ s ∈ texts :=
  (perm_placed t texts).mem_iff.trans List.mem_cons

/-- Texts in increasing order are the same texts. -/
@[simp] theorem mem_sorted {s : String} {texts : List String} : s ∈ sorted texts ↔ s ∈ texts :=
  (perm_sorted texts).mem_iff

/-- A new text finds its place among texts in increasing order. -/
theorem pairwise_placed {s : String} {texts : List String} (increasing : texts.Pairwise (· < ·))
    (fresh : s ∉ texts) : (placed s texts).Pairwise (· < ·) := by
  -- The new text passes all that are below it and stops before the first one above it.
  induction texts with
  | nil => simp [placed]
  | cons first rest ih =>
    obtain ⟨above, later⟩ := List.pairwise_cons.mp increasing
    have different : first ≠ s := fun same => fresh (by simp [same])
    by_cases passed : first < s
    · -- The first text stays in front, below the new one as below all others.
      rw [placed, if_pos passed]
      refine List.pairwise_cons.mpr ⟨fun t member => ?_, ih later fun member =>
        fresh (List.mem_cons_of_mem _ member)⟩
      rcases mem_placed.mp member with rfl | inside
      · exact passed
      · exact above t inside
    · -- The new text is below the first one, and so below all others.
      have before : s < first := lt_of_le_of_ne (not_lt.mp passed) different.symm
      rw [placed, if_neg passed]
      refine List.pairwise_cons.mpr ⟨fun t member => ?_, increasing⟩
      rcases List.mem_cons.mp member with rfl | inside
      · exact before
      · exact before.trans (above t inside)

/-- Texts that all differ are strictly increasing once they are sorted. -/
theorem pairwise_sorted {texts : List String} (once : texts.Nodup) :
    (sorted texts).Pairwise (· < ·) := by
  -- Each text is new among those placed before it, as no text comes twice.
  induction texts with
  | nil => exact .nil
  | cons first rest ih =>
    obtain ⟨alone, distinct⟩ := List.nodup_cons.mp once
    rw [sorted, List.foldr_cons, ← sorted]
    exact pairwise_placed (ih distinct) (mem_sorted.not.mpr alone)

end Tablewright.Text
