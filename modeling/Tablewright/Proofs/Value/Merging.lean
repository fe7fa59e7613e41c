import Tablewright.Proofs.Value.Entries

/-! Entries in layers: what is found once one layer is put over another. -/

namespace Tablewright

section

variable {key other : String} {value old : α} {entries : List (String × α)}

/-- A key that is there keeps its place, and a new one goes behind all others. -/
theorem keysOf_assign (key : String) (value : α) (entries : List (String × α)) :
    keysOf (assign key value entries) =
      if key ∈ keysOf entries then keysOf entries else keysOf entries ++ [key] := by
  -- The key is passed on to the rest until an entry of it comes or the end does.
  induction entries with
  | nil => rfl
  | cons entry rest ih =>
    obtain ⟨name, first⟩ := entry
    by_cases hit : name = key
    · simp [assign, keysOf, hit]
    · have apart : key ≠ name := fun same => hit same.symm
      simp only [assign, hit, if_false, keysOf, List.map_cons, List.mem_cons, apart, false_or]
        at ih ⊢
      rw [ih]
      split <;> simp [*]

/-- Distinct keys stay distinct when a value is put under a key. -/
theorem nodup_assign (once : (keysOf entries).Nodup) (key : String) (value : α) :
    (keysOf (assign key value entries)).Nodup := by
  -- Only a key that is not there yet is added.
  rw [keysOf_assign]
  split
  · exact once
  · rename_i fresh
    rw [List.nodup_append]
    refine ⟨once, by simp, fun name known new member same => fresh ?_⟩
    rw [← List.mem_singleton.mp member, ← same]
    exact known

/-- Of two values put under one key the later one stays. -/
theorem assign_assign (key : String) (value old : α) (entries : List (String × α)) :
    assign key value (assign key old entries) = assign key value entries := by
  -- Both values go to the same place.
  induction entries with
  | nil => simp [assign]
  | cons entry rest ih =>
    obtain ⟨name, first⟩ := entry
    by_cases hit : name = key
    · simp [assign, hit]
    · simp only [assign, hit, if_false, ih]

/-- A key that is there takes its value before or after another key does. -/
theorem assign_comm (apart : key ≠ other) (known : key ∈ keysOf entries) (value old : α) :
    assign key value (assign other old entries) = assign other old (assign key value entries) := by
  have apart' : other ≠ key := apart.symm
  -- The first entry of either key is changed by one of the two steps and passed by the other.
  induction entries with
  | nil => simp [keysOf] at known
  | cons entry rest ih =>
    obtain ⟨name, first⟩ := entry
    by_cases hit : name = key
    · subst hit
      simp [assign, apart]
    · have later : key ∈ keysOf rest := by
        simpa [keysOf, Ne.symm hit] using known
      by_cases same : name = other
      · -- The first entry goes by the other key, so the known one stands further back.
        subst same
        simp [assign, hit]
      · simp only [assign, hit, same, if_false, ih later]

end

section

variable {key : String} {value : α} {entries added : List (String × α)}

/-- Nothing is put on. -/
@[simp] theorem assignAll_nil (entries : List (String × α)) : assignAll entries [] = entries := rfl

/-- The first entry is put on before all others. -/
theorem assignAll_cons (entries : List (String × α)) (entry : String × α)
    (rest : List (String × α)) :
    assignAll entries (entry :: rest) = assignAll (assign entry.1 entry.2 entries) rest := rfl

/-- A key that is there takes its value before or after all entries under other keys. -/
theorem assign_assignAll (apart : key ∉ keysOf added) (known : key ∈ keysOf entries) (value : α) :
    assign key value (assignAll entries added) = assignAll (assign key value entries) added := by
  -- Each entry that is put on leaves the key known, so the value can be put in before the next one.
  induction added generalizing entries with
  | nil => rfl
  | cons entry rest ih =>
    have other : key ≠ entry.1 ∧ key ∉ keysOf rest := by simpa [keysOf] using apart
    have still : key ∈ keysOf (assign entry.1 entry.2 entries) := by
      rw [keysOf_assign]
      split
      · exact known
      · exact List.mem_append_left _ known
    rw [assignAll_cons, assignAll_cons, ih other.2 still, assign_comm other.1 known]

/-- To put a value into a layer that is put on is to put it on last. -/
theorem assignAll_assign (once : (keysOf added).Nodup) (entries : List (String × α))
    (key : String) (value : α) :
    assignAll entries (assign key value added) = assign key value (assignAll entries added) := by
  -- The layer is put on as ever up to the entry of the key, or to its end without one.
  induction added generalizing entries with
  | nil => rfl
  | cons entry rest ih =>
    obtain ⟨name, old⟩ := entry
    obtain ⟨alone, distinct⟩ := List.nodup_cons.mp once
    by_cases hit : name = key
    · subst hit
      -- The key comes no second time in the layer, so its old value is replaced in either way.
      have there : name ∈ keysOf (assign name old entries) := by
        rw [keysOf_assign]
        split
        · assumption
        · simp
      rw [assignAll_cons, assign_assignAll alone there, assign_assign]
      simp [assign, assignAll_cons]
    · rw [assignAll_cons, assign, if_neg hit, assignAll_cons, ih distinct]

/-- To put on a layer with another one over it is to put on both, one after the other. -/
theorem assignAll_assignAll (once : (keysOf added).Nodup) (entries upper : List (String × α)) :
    assignAll entries (assignAll added upper) = assignAll (assignAll entries added) upper := by
  -- The upper layer goes entry by entry into the one below, whose keys stay distinct by that.
  induction upper generalizing added with
  | nil => rfl
  | cons entry rest ih =>
    rw [assignAll_cons, ih (nodup_assign once ..), assignAll_assign once, assignAll_cons]

/-- A layer of distinct keys stands as it is when nothing is under it. -/
theorem assignAll_empty (once : (keysOf added).Nodup) : assignAll [] added = added := by
  -- The induction is on the last entry, which goes behind keys that differ from it.
  induction added using List.reverseRecOn with
  | nil => rfl
  | append_singleton rest last ih =>
    rw [keysOf_append, List.nodup_append] at once
    obtain ⟨distinct, -, apart⟩ := once
    have fresh : lookup? last.1 rest = none :=
      lookup?_eq_none_iff.mpr fun known => apart _ known last.1 (by simp [keysOf]) rfl
    rw [assignAll_concat, ih distinct, assign_of_lookup?_eq_none fresh]

/-- Distinct keys stay distinct under any layer. -/
theorem nodup_assignAll (once : (keysOf entries).Nodup) (added : List (String × α)) :
    (keysOf (assignAll entries added)).Nodup := by
  -- The induction is on the layer, of which each entry keeps the keys distinct.
  induction added generalizing entries with
  | nil => exact once
  | cons entry rest ih => exact ih (nodup_assign once ..)

/-- What is found under a key is what the upper layer holds, or else the lower one. -/
theorem lookup?_assignAll (once : (keysOf added).Nodup) (key : String)
    (entries : List (String × α)) :
    lookup? key (assignAll entries added) = (lookup? key added).or (lookup? key entries) := by
  -- With distinct keys no later entry of the layer takes back what an earlier one has put.
  induction added generalizing entries with
  | nil => rfl
  | cons entry rest ih =>
    obtain ⟨name, value⟩ := entry
    obtain ⟨alone, distinct⟩ := List.nodup_cons.mp once
    rw [assignAll_cons, ih distinct]
    by_cases hit : name = key
    · -- No later entry goes by the key, so this one's value is found.
      subst hit
      rw [lookup?_eq_none_iff.mpr alone, Option.none_or, lookup?_assign_self]
      simp [lookup?]
    · rw [lookup?_assign_of_ne (Ne.symm hit)]
      simp [lookup?, hit]

/-- To keep the entries of some keys, before or after a value is put under a key. -/
theorem filter_assign (keep : String → Bool) (key : String) (value : α)
    (entries : List (String × α)) :
    (assign key value entries).filter (fun entry => keep entry.1) =
      if keep key then assign key value (entries.filter fun entry => keep entry.1)
      else entries.filter fun entry => keep entry.1 := by
  -- A value under a key that is not kept is put where it is filtered out again.
  induction entries with
  | nil => by_cases kept : keep key <;> simp [assign, kept]
  | cons entry rest ih =>
    obtain ⟨name, old⟩ := entry
    by_cases hit : name = key
    · -- The entry is replaced in place, or left out on both sides.
      subst hit
      by_cases kept : keep name <;> simp [assign, kept]
    · by_cases kept : keep name <;> by_cases kept' : keep key <;>
        simp [assign, hit, kept, kept', ih]

/-- To keep the entries of some keys, before or after one layer is put over another. -/
theorem filter_assignAll (keep : String → Bool) (entries added : List (String × α)) :
    (assignAll entries added).filter (fun entry => keep entry.1) =
      assignAll (entries.filter fun entry => keep entry.1)
        (added.filter fun entry => keep entry.1) := by
  -- The layers are filtered entry by entry, in the order in which they are put on.
  induction added generalizing entries with
  | nil => rfl
  | cons entry rest ih =>
    rw [assignAll_cons, ih, filter_assign]
    by_cases kept : keep entry.1 <;> simp [kept, assignAll_cons]

end

end Tablewright
