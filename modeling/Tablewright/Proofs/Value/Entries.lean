import Mathlib.Data.List.Induction
import Tablewright.Value.Basic

/-! Entries under keys: what is found once they are added to or rewritten. -/

namespace Tablewright

/-- A new key goes to the end. -/
theorem assign_of_lookup?_eq_none {key : String} {entries : List (String × α)}
    (fresh : lookup? key entries = none) (value : α) :
    assign key value entries = entries ++ [(key, value)] := by
  -- The induction is on the entries, none of which goes by the key.
  induction entries with
  | nil => rfl
  | cons entry rest ih =>
    obtain ⟨name, old⟩ := entry
    by_cases hit : name = key
    · simp [lookup?, hit] at fresh
    · simp only [lookup?, hit, if_false] at fresh
      simp [assign, hit, ih fresh]

/-- A new key at the end is found there. -/
theorem lookup?_append_self {key : String} {entries : List (String × α)}
    (fresh : lookup? key entries = none) (value : α) :
    lookup? key (entries ++ [(key, value)]) = some value := by
  -- No earlier entry has the key, so the search passes all of them.
  induction entries with
  | nil => simp [lookup?]
  | cons entry rest ih =>
    obtain ⟨name, old⟩ := entry
    by_cases hit : name = key
    · simp [lookup?, hit] at fresh
    · simp only [lookup?, hit, if_false] at fresh
      simp [lookup?, hit, ih fresh]

/-- Looking up what has been rewritten is rewriting what has been looked up. -/
theorem lookup?_map (f : α → β) (key : String) (entries : List (String × α)) :
    lookup? key (entries.map (Prod.map id f)) = (lookup? key entries).map f := by
  -- The induction is on the entries, whose keys stay as they are.
  induction entries with
  | nil => rfl
  | cons entry rest ih =>
    obtain ⟨name, value⟩ := entry
    by_cases hit : name = key <;> simp [lookup?, hit, ih]

/-- What is put under a key is found there. -/
theorem lookup?_assign_self (key : String) (value : α) (entries : List (String × α)) :
    lookup? key (assign key value entries) = some value := by
  -- The induction is on the entries; the value goes where the key is met, or behind all.
  induction entries with
  | nil => simp [assign, lookup?]
  | cons entry rest ih =>
    obtain ⟨name, old⟩ := entry
    by_cases hit : name = key <;> simp [assign, lookup?, hit, ih]

/-- What is put under a key leaves the values under all other keys alone. -/
theorem lookup?_assign_of_ne {key other : String} (apart : other ≠ key) (value : α)
    (entries : List (String × α)) :
    lookup? other (assign key value entries) = lookup? other entries := by
  -- The induction is on the entries, and the one that may change goes by the other key.
  have apart' : key ≠ other := apart.symm
  induction entries with
  | nil => simp [assign, lookup?, apart']
  | cons entry rest ih =>
    obtain ⟨name, old⟩ := entry
    by_cases hit : name = key
    · simp [assign, lookup?, hit, apart']
    · simp only [assign, hit, if_false, lookup?, ih]

/-- The first of two lists of entries is searched first. -/
theorem lookup?_append (key : String) (entries others : List (String × α)) :
    lookup? key (entries ++ others) = (lookup? key entries).or (lookup? key others) := by
  -- The induction is on the first entries, of which the first hit is the answer.
  induction entries with
  | nil => rfl
  | cons entry rest ih =>
    obtain ⟨name, value⟩ := entry
    by_cases hit : name = key <;> simp [lookup?, hit, ih]

/-- Among the entries of some keys, these are found as before, and no others are. -/
theorem lookup?_filter (keep : String → Bool) (key : String) (entries : List (String × α)) :
    lookup? key (entries.filter fun entry => keep entry.1) =
      if keep key then lookup? key entries else none := by
  -- The induction is on the entries; what is left out does not go by a key that is kept.
  induction entries with
  | nil => simp [lookup?]
  | cons entry rest ih =>
    obtain ⟨name, value⟩ := entry
    by_cases hit : name = key
    · subst hit
      by_cases kept : keep name <;> simp [lookup?, kept, ih]
    · by_cases kept : keep name <;> simp [lookup?, kept, hit, ih]

/-- The keys of two lists of entries follow each other. -/
@[simp] theorem keysOf_append (entries others : List (String × α)) :
    keysOf (entries ++ others) = keysOf entries ++ keysOf others := by
  simp [keysOf]

/-- A key without a value is none of the keys. -/
theorem lookup?_eq_none_iff {key : String} {entries : List (String × α)} :
    lookup? key entries = none ↔ key ∉ keysOf entries := by
  -- The induction is on the entries, of which the first one decides or is passed.
  induction entries with
  | nil => simp [lookup?, keysOf]
  | cons entry rest ih =>
    obtain ⟨name, value⟩ := entry
    by_cases hit : name = key
    · simp [lookup?, keysOf, hit]
    · have other : key ≠ name := fun same => hit same.symm
      simpa [lookup?, keysOf, hit, other] using ih

/-- What is found under a key is one of the entries. -/
theorem mem_of_lookup? {key : String} {value : α} {entries : List (String × α)}
    (found : lookup? key entries = some value) : (key, value) ∈ entries := by
  -- The induction is on the entries, up to the one that goes by the key.
  induction entries with
  | nil => simp [lookup?] at found
  | cons entry rest ih =>
    obtain ⟨name, first⟩ := entry
    by_cases hit : name = key
    · obtain rfl : first = value := by simpa [lookup?, hit] using found
      simp [hit]
    · exact List.mem_cons_of_mem _ (ih (by simpa [lookup?, hit] using found))

/-- Where keys differ, the entries are what is found. -/
theorem lookup?_eq_some_iff {key : String} {value : α} {entries : List (String × α)}
    (once : (keysOf entries).Nodup) :
    lookup? key entries = some value ↔ (key, value) ∈ entries := by
  -- The induction is on the entries, where only one goes by the key.
  refine ⟨mem_of_lookup?, fun member => ?_⟩
  induction entries with
  | nil => cases member
  | cons entry rest ih =>
    obtain ⟨name, first⟩ := entry
    obtain ⟨alone, distinct⟩ := List.nodup_cons.mp once
    rcases List.mem_cons.mp member with same | later
    · cases same
      simp [lookup?]
    · -- The key of a later entry is not the first key.
      have apart : name ≠ key := by
        rintro rfl
        exact alone (List.mem_map.mpr ⟨_, later, rfl⟩)
      rw [lookup?, if_neg apart]
      exact ih distinct later

/-- Keys whose values are told by the keys go by those keys. -/
@[simp] theorem keysOf_map (f : String → α) (keys : List String) :
    keysOf (keys.map fun key => (key, f key)) = keys := by
  simp [keysOf, Function.comp_def]

/-- Putting the value that a key has already leaves everything as it is. -/
theorem assign_of_mem (f : String → α) {key : String} {keys : List String} (known : key ∈ keys) :
    assign key (f key) (keys.map fun key => (key, f key)) = keys.map fun key => (key, f key) := by
  -- The induction is on the keys, up to the one that is met.
  induction keys with
  | nil => simp at known
  | cons first rest ih =>
    by_cases hit : first = key
    · simp [assign, hit]
    · -- The key stands further back, where its value is put over itself.
      have later : key ∈ rest := (List.mem_cons.mp known).resolve_left fun same => hit same.symm
      simp only [List.map_cons, assign, hit, if_false, ih later]

/-- A last key is left out when it came before, and stands at the end otherwise. -/
theorem eraseDups_concat (keys : List String) (last : String) :
    (keys ++ [last]).eraseDups =
      if last ∈ keys then keys.eraseDups else keys.eraseDups ++ [last] := by
  rw [List.eraseDups_append]
  by_cases known : last ∈ keys <;> simp [List.removeAll, known, List.eraseDups_cons]

/-- The last entry is put behind all others. -/
theorem assignAll_concat (entries added : List (String × α)) (last : String × α) :
    assignAll entries (added ++ [last]) = assign last.1 last.2 (assignAll entries added) := by
  simp [assignAll, List.foldl_append]

/-- Entries put one after another stand where their keys first came, when keys tell the values. -/
theorem assignAll_map (f : String → α) (keys : List String) :
    assignAll [] (keys.map fun key => (key, f key)) =
      keys.eraseDups.map fun key => (key, f key) := by
  -- The last key either has its value already or goes behind all others.
  induction keys using List.reverseRecOn with
  | nil => simp [assignAll]
  | append_singleton keys last ih =>
    rw [List.map_append, List.map_singleton, assignAll_concat, ih, eraseDups_concat]
    by_cases known : last ∈ keys
    · rw [assign_of_mem f (List.mem_eraseDups.mpr known), if_pos known]
    · -- A key that is new goes behind the others with its value.
      have fresh : lookup? last (keys.eraseDups.map fun key => (key, f key)) = none := by
        rw [lookup?_eq_none_iff, keysOf_map, List.mem_eraseDups]
        exact known
      rw [assign_of_lookup?_eq_none fresh, if_neg known, List.map_append, List.map_singleton]

/-- What is left of keys without repetitions holds each of them once. -/
theorem nodup_eraseDups (keys : List String) : keys.eraseDups.Nodup := by
  -- The induction is on the last key, which is kept when it is new.
  induction keys using List.reverseRecOn with
  | nil => simp
  | append_singleton keys last ih =>
    rw [eraseDups_concat]
    split
    · exact ih
    · -- The last key is new, so it goes behind keys that all differ from it.
      rename_i fresh
      exact List.nodup_append.mpr ⟨ih, by simp, fun key member other new same =>
        fresh (List.mem_eraseDups.mp (List.mem_singleton.mp new ▸ same ▸ member))⟩

/-- Keys in another order are the same keys once repetitions are left out. -/
theorem eraseDups_perm {keys others : List String} (same : others.Perm keys) :
    others.eraseDups.Perm keys.eraseDups := by
  -- Both lists hold each key once, and they hold the same keys.
  apply (List.perm_ext_iff_of_nodup (nodup_eraseDups others) (nodup_eraseDups keys)).mpr
  intro key
  rw [List.mem_eraseDups, List.mem_eraseDups, same.mem_iff]

end Tablewright
