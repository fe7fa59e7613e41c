import Tablewright.Text.Basic

/-! Joined texts, as the library interleaves them and as a loop with separators writes them. -/

namespace Tablewright.Text

/-- Joined texts are the texts with the separator between neighbours. -/
theorem joined_eq_intercalate (separator : String) (texts : List String) :
    joined separator texts = separator.intercalate texts := by
  -- Both definitions write a separator as long as a further text follows.
  induction texts with
  | nil => simp [joined]
  | cons first rest ih =>
    cases rest with
    | nil => simp [joined]
    | cons second others => rw [joined, ih, String.intercalate_cons_cons]

/-- A loop that writes the separator behind every text but the last one joins the texts. -/
theorem join_separated (separator : String) (text : α → String) (items : List α) (first : Nat) :
    String.join ((items.zipIdx first).map fun entry =>
      text entry.1 ++ if entry.2 + 1 = first + items.length then "" else separator) =
      separator.intercalate (items.map text) := by
  -- The end of the loop stays where it is while the loop moves on towards it.
  induction items generalizing first with
  | nil => simp
  | cons item rest ih =>
    have rounds := ih (first + 1)
    have ends : first + 1 + rest.length = first + (item :: rest).length := by
      simp only [List.length_cons]
      omega
    rw [ends] at rounds
    rw [List.zipIdx_cons, List.map_cons, String.join_cons, rounds]
    cases rest with
    -- The last round writes no separator.
    | nil => simp
    | cons next others =>
      -- A further item follows, so this round is not the last one.
      have more : first + 1 ≠ first + (item :: next :: others).length := by
        simp only [List.length_cons]
        omega
      simp only [List.map_cons, if_neg more, String.intercalate_cons_cons]

/-- Beside its texts, a joined text holds one separator less than it has texts. -/
theorem length_intercalate (separator : String) (texts : List String) :
    (separator.intercalate texts).length =
      (String.join texts).length + separator.length * (texts.length - 1) := by
  -- Every text that has a successor brings one separator with it.
  induction texts with
  | nil => simp
  | cons first rest ih =>
    cases rest with
    | nil => simp
    | cons second others =>
      rw [String.intercalate_cons_cons, String.length_append, String.length_append, ih,
        String.join_cons (s := first), String.length_append, List.length_cons, List.length_cons,
        List.length_cons, Nat.add_sub_cancel, Nat.add_sub_cancel, Nat.mul_add, Nat.mul_one]
      omega

end Tablewright.Text
