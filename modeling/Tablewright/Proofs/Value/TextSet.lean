import Mathlib.Data.List.Sort
import Mathlib.Data.String.Basic
import Tablewright.Value.Order

/-! Texts taken as a set: which are members, and the one increasing list of the members. -/

namespace Tablewright

/-- Two texts are equal values when they are the same text. -/
@[simp] theorem same_text (s t : String) : (Value.text s).same (.text t) = decide (s = t) := by
  simp [Value.same, Value.sameLeaf]

/-- A text is found among texts exactly when it is one of them. -/
theorem memberOf_texts (s : String) (texts : List String) :
    (Value.text s).memberOf (texts.map .text) = .ok (decide (s ∈ texts)) := by
  -- A text can always be looked up, and the search compares it with each member.
  have found : ((texts.map Value.text).any fun other => other.same (.text s)) =
      decide (s ∈ texts) := by
    rw [Bool.eq_iff_iff]
    simp
  simp only [Value.memberOf, Value.lookupKey, Bind.bind, Except.bind, Pure.pure, Except.pure,
    found]

/-- Texts in strictly increasing order of which a list holds exactly the same ones. -/
structure IncreasingSetOf (ordered texts : List String) : Prop where
  increasing : ordered.Pairwise (· < ·)
  members : ∀ s, s ∈ ordered ↔ s ∈ texts

/-- Two lists with the same members have the same increasing list of them. -/
theorem IncreasingSetOf.unique {ordered ordered' texts texts' : List String}
    (set : IncreasingSetOf ordered texts) (set' : IncreasingSetOf ordered' texts')
    (same : ∀ s, s ∈ texts ↔ s ∈ texts') : ordered = ordered' := by
  -- Members in increasing order can be listed in one way only.
  apply List.Pairwise.eq_of_mem_iff set.increasing set'.increasing
  intro s
  rw [set.members, set'.members, same]

/-- Texts with those already seen are reduced to each of them once. -/
theorem distinctFrom_texts {seen : List String} (once : seen.Nodup) (texts : List String) :
    ∃ kept : List String, distinctFrom (seen.map .text) (texts.map .text) = .ok (kept.map .text) ∧
      kept.Nodup ∧ ∀ s, s ∈ kept ↔ s ∈ seen ∨ s ∈ texts := by
  -- What has been seen holds no text twice, and every further text either joins it or is known.
  induction texts generalizing seen with
  | nil =>
    refine ⟨seen.reverse, ?_, List.nodup_reverse.mpr once, by simp⟩
    simp [distinctFrom, List.map_reverse, Pure.pure, Except.pure]
  | cons text rest ih =>
    by_cases known : text ∈ seen
    · -- A text that is known adds nothing to what is kept.
      obtain ⟨kept, made, distinct, members⟩ := ih once
      refine ⟨kept, ?_, distinct, fun s => ?_⟩
      · simpa [distinctFrom, memberOf_texts, known, Bind.bind, Except.bind] using made
      · rw [members, List.mem_cons]
        constructor
        · rintro (old | new)
          · exact .inl old
          · exact .inr (.inr new)
        · rintro (old | rfl | new)
          · exact .inl old
          · exact .inl known
          · exact .inr new
    · -- A new text joins those that have been seen, which still holds each of them once.
      obtain ⟨kept, made, distinct, members⟩ := ih (List.nodup_cons.mpr ⟨known, once⟩)
      refine ⟨kept, ?_, distinct, fun s => ?_⟩
      · simpa [distinctFrom, memberOf_texts, known, Bind.bind, Except.bind] using made
      · rw [members, List.mem_cons, List.mem_cons, or_assoc, or_left_comm]

/-- A text that is not yet there finds its place in increasing order. -/
theorem placeInOrder_text {text : String} {placed : List String}
    (increasing : placed.Pairwise (· < ·)) (fresh : text ∉ placed) :
    ∃ ordered : List String,
      placeInOrder (.text text) (placed.map .text) = .ok (ordered.map .text) ∧
        IncreasingSetOf ordered (text :: placed) := by
  -- The text passes smaller ones; the first one that it does not pass is greater than it.
  induction placed with
  | nil => exact ⟨[text], rfl, by simp, by simp⟩
  | cons other rest ih =>
    obtain ⟨above, later⟩ := List.pairwise_cons.mp increasing
    have different : other ≠ text := fun same => fresh (by simp [same])
    by_cases passed : other < text
    · -- The text goes further back, and the first one stays below all that follows.
      obtain ⟨ordered, made, set⟩ := ih later fun member => fresh (by simp [member])
      refine ⟨other :: ordered, ?_, List.pairwise_cons.mpr ⟨fun s member => ?_, set.increasing⟩,
        fun s => ?_⟩
      · simp only [List.map_cons, placeInOrder, Value.less?, passed, decide_true, made, Bind.bind,
          Except.bind, Pure.pure, Except.pure]
      · rcases List.mem_cons.mp ((set.members s).mp member) with rfl | inside
        · exact passed
        · exact above s inside
      · simp only [List.mem_cons, set.members, or_left_comm]
    · -- The text goes in front, below the first one and so below all others.
      have before : text < other := lt_of_le_of_ne (not_lt.mp passed) different.symm
      refine ⟨text :: other :: rest, ?_, List.pairwise_cons.mpr ⟨fun s member => ?_, increasing⟩,
        fun s => Iff.rfl⟩
      · simp only [List.map_cons, placeInOrder, Value.less?, passed, decide_false, Pure.pure,
          Except.pure]
      · rcases List.mem_cons.mp member with rfl | inside
        · exact before
        · exact before.trans (above s inside)

/-- Distinct texts are put in increasing order, behind those that stand in order already. -/
theorem foldlM_placeInOrder_texts {placed texts : List String}
    (increasing : placed.Pairwise (· < ·)) (once : texts.Nodup)
    (apart : ∀ s ∈ texts, s ∉ placed) :
    ∃ ordered : List String,
      (texts.map Value.text).foldlM (fun placed value => placeInOrder value placed)
        (placed.map .text) = .ok (ordered.map .text) ∧
        IncreasingSetOf ordered (placed ++ texts) := by
  -- Each text is new to those that stand in order, so they stay strictly increasing.
  induction texts generalizing placed with
  | nil => exact ⟨placed, rfl, increasing, by simp⟩
  | cons text rest ih =>
    obtain ⟨alone, distinct⟩ := List.nodup_cons.mp once
    obtain ⟨longer, made, set⟩ := placeInOrder_text increasing (apart text (by simp))
    -- The texts that are still to come are apart from the one just placed as well.
    have still : ∀ s ∈ rest, s ∉ longer := by
      intro s member inside
      rcases List.mem_cons.mp ((set.members s).mp inside) with rfl | old
      · exact alone member
      · exact apart s (by simp [member]) old
    obtain ⟨ordered, done, whole⟩ := ih set.increasing distinct still
    refine ⟨ordered, ?_, whole.increasing, fun s => ?_⟩
    · simp only [List.map_cons, List.foldlM_cons, made, Bind.bind, Except.bind]
      exact done
    · simp only [whole.members, List.mem_append, set.members, List.mem_cons, or_assoc,
        or_left_comm]

/-- Texts taken as a set come out in increasing order, each of them once. -/
theorem increasing_distinct_texts (texts : List String) :
    ∃ kept ordered : List String, distinct (texts.map .text) = .ok (kept.map .text) ∧
      increasing (kept.map .text) = .ok (ordered.map .text) ∧ IncreasingSetOf ordered texts := by
  -- The texts are first reduced to each of them once, and then put in order.
  obtain ⟨kept, reduced, once, members⟩ := distinctFrom_texts List.nodup_nil texts
  obtain ⟨ordered, sorted, set⟩ :=
    foldlM_placeInOrder_texts List.Pairwise.nil once (fun s _ => List.not_mem_nil)
  refine ⟨kept, ordered, reduced, sorted, set.increasing, fun s => ?_⟩
  simpa [members] using set.members s

end Tablewright
