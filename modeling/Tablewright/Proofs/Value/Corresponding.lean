import Mathlib.Data.List.Forall2
import Mathlib.Data.Option.Basic
import Tablewright.Proofs.Value.Entries

/-! Entries of the same keys whose values correspond: they are found, put and left out alike. -/

namespace Tablewright

/-- Entries of one key whose values correspond. -/
def SameKey (corresponds : α → β → Prop) (entry : String × α) (entry' : String × β) : Prop :=
  entry.1 = entry'.1 ∧ corresponds entry.2 entry'.2

section

variable {corresponds : α → β → Prop} {entries : List (String × α)} {entries' : List (String × β)}
  (pairs : List.Forall₂ (SameKey corresponds) entries entries')
include pairs

/-- Under one key corresponding values are found, or none. -/
theorem lookup?_corresponding (key : String) :
    Option.Rel corresponds (lookup? key entries) (lookup? key entries') := by
  -- The induction follows both rows of entries, which go by the same keys.
  induction pairs with
  | nil => exact .none
  | @cons entry entry' rest rest' first _ ih =>
    obtain ⟨same, pair⟩ := first
    by_cases hit : entry.1 = key
    · have hit' : entry'.1 = key := same ▸ hit
      simpa only [lookup?, hit, hit', if_true] using Option.Rel.some pair
    · have miss : ¬ entry'.1 = key := fun found => hit (same.trans found)
      simpa only [lookup?, hit, miss, if_false] using ih

/-- Corresponding values can be put under one key. -/
theorem assign_corresponding (key : String) {value : α} {value' : β}
    (pair : corresponds value value') :
    List.Forall₂ (SameKey corresponds) (assign key value entries) (assign key value' entries') := by
  -- The key is met at the same place in both rows, or goes behind both.
  induction pairs with
  | nil => exact .cons ⟨rfl, pair⟩ .nil
  | @cons entry entry' rest rest' first others ih =>
    obtain ⟨same, old⟩ := first
    by_cases hit : entry.1 = key
    · have hit' : entry'.1 = key := same ▸ hit
      simp only [assign, hit, hit', if_true]
      exact .cons ⟨rfl, pair⟩ others
    · have miss : ¬ entry'.1 = key := fun found => hit (same.trans found)
      simp only [assign, hit, miss, if_false]
      exact .cons ⟨same, old⟩ ih

/-- Corresponding layers can be put over each other. -/
theorem assignAll_corresponding {added : List (String × α)} {added' : List (String × β)}
    (layer : List.Forall₂ (SameKey corresponds) added added') :
    List.Forall₂ (SameKey corresponds) (assignAll entries added) (assignAll entries' added') := by
  -- The induction is on the upper layer, whose entries are put over the lower one in turn.
  induction layer generalizing entries entries' with
  | nil => exact pairs
  | @cons entry entry' rest rest' first _ ih =>
    obtain ⟨same, pair⟩ := first
    have put := assign_corresponding pairs entry.1 pair
    have put' : List.Forall₂ (SameKey corresponds) (assign entry.1 entry.2 entries)
        (assign entry'.1 entry'.2 entries') := by
      rwa [← same]
    exact ih put'

/-- Of corresponding entries those of some keys correspond. -/
theorem filter_corresponding (keep : String → Bool) :
    List.Forall₂ (SameKey corresponds) (entries.filter fun entry => keep entry.1)
      (entries'.filter fun entry => keep entry.1) := by
  -- An entry and its counterpart go by one key, so both are kept or both left out.
  induction pairs with
  | nil => exact .nil
  | @cons entry entry' rest rest' first _ ih =>
    by_cases kept : keep entry.1
    · have kept' : keep entry'.1 := first.1 ▸ kept
      simpa [List.filter_cons, kept, kept'] using ⟨first, ih⟩
    · have left : ¬ keep entry'.1 := fun other => kept (first.1.symm ▸ other)
      simpa [List.filter_cons, kept, left] using ih

/-- Values that correspond may do so in a weaker way. -/
theorem imp_corresponding {weaker : α → β → Prop}
    (weaken : ∀ value value', corresponds value value' → weaker value value') :
    List.Forall₂ (SameKey weaker) entries entries' :=
  pairs.imp fun _ _ both => ⟨both.1, weaken _ _ both.2⟩

end

/-- What is put under a key is the only entry that was not there before. -/
theorem mem_of_mem_assign {key : String} {value : α} {entries : List (String × α)}
    {entry : String × α} (member : entry ∈ assign key value entries) :
    entry = (key, value) ∨ entry ∈ entries := by
  -- The induction is on the entries; where the key is met, the value takes its place.
  induction entries with
  | nil => exact .inl (List.mem_singleton.mp member)
  | cons first rest ih =>
    obtain ⟨name, old⟩ := first
    by_cases hit : name = key
    · simp only [assign, hit, if_true, List.mem_cons] at member ⊢
      tauto
    · simp only [assign, hit, if_false, List.mem_cons] at member ⊢
      tauto

/-- What is found in two layers is an entry of the upper one, or found in the lower one when there
is none. -/
theorem lookup?_assignAll_cases {key : String} {value : α} {entries added : List (String × α)}
    (found : lookup? key (assignAll entries added) = some value) :
    (key, value) ∈ added ∨ lookup? key added = none ∧ lookup? key entries = some value := by
  -- The induction is on the upper layer, of which the later entries go over the first one.
  induction added generalizing entries with
  | nil => exact .inr ⟨rfl, found⟩
  | cons first rest ih =>
    obtain ⟨name, new⟩ := first
    rcases ih found with upper | ⟨missing, lower⟩
    · -- What a later entry has put is an entry of the layer.
      exact .inl (List.mem_cons_of_mem _ upper)
    · by_cases hit : key = name
      · subst hit
        obtain rfl : new = value := Option.some.inj ((lookup?_assign_self ..).symm.trans lower)
        exact .inl (List.mem_cons_self ..)
      · have apart : ¬ name = key := fun same => hit same.symm
        refine .inr ⟨?_, (lookup?_assign_of_ne hit ..).symm.trans lower⟩
        simpa only [lookup?, apart, if_false] using missing

/-- What is found in a layer leaves something to be found when another layer is put over it. -/
theorem isSome_lookup?_assignAll {key : String} {entries : List (String × α)}
    (there : (lookup? key entries).isSome) (added : List (String × α)) :
    (lookup? key (assignAll entries added)).isSome := by
  -- The induction is on the upper layer; to put a value under a key takes no key away.
  induction added generalizing entries with
  | nil => exact there
  | cons first rest ih =>
    refine ih ?_
    by_cases hit : key = first.1
    · rw [hit, lookup?_assign_self]
      rfl
    · rwa [lookup?_assign_of_ne hit]

/-- An entry of two layers is one of either. -/
theorem mem_of_mem_assignAll {entries added : List (String × α)} {entry : String × α}
    (member : entry ∈ assignAll entries added) : entry ∈ entries ∨ entry ∈ added := by
  -- The induction is on the upper layer, whose entries are put in one after another.
  induction added generalizing entries with
  | nil => exact .inl member
  | cons first rest ih =>
    rcases ih member with old | new
    · -- It is the first entry, or was there before this was put in.
      rcases mem_of_mem_assign old with rfl | older
      · exact .inr (List.mem_cons_self ..)
      · exact .inl older
    · exact .inr (List.mem_cons_of_mem _ new)

end Tablewright
