import Tablewright.Proofs.Value.Entries
import Tablewright.Template.Shelf

/-! Shelves of sources: what stands on them once further sources are put there. -/

namespace Tablewright

namespace Template

/-- What ends in the suffix of file names is a stem with the suffix behind it. -/
theorem isSuffixOf_fileSuffix_iff {name : String} :
    fileSuffix.toList.isSuffixOf name.toList ↔ ∃ stem, name = stem ++ fileSuffix := by
  -- Both sides are told of the characters, where a suffix is an end of the list.
  rw [List.isSuffixOf_iff_suffix]
  constructor
  · rintro ⟨stem, same⟩
    refine ⟨String.ofList stem, ?_⟩
    rw [← String.toList_inj, String.toList_append, String.toList_ofList, same]
  · -- The suffix is an end of any text that is put in front of it.
    rintro ⟨stem, rfl⟩
    rw [String.toList_append]
    exact List.suffix_append ..

/-- A name with the suffix is its own file name. -/
@[simp] theorem fileName_append_suffix (stem : String) :
    fileName (stem ++ fileSuffix) = stem ++ fileSuffix :=
  if_pos (isSuffixOf_fileSuffix_iff.mpr ⟨stem, rfl⟩)

/-- A name without the suffix gets it. -/
theorem fileName_of_bare {name : String} (bare : ¬ ∃ stem, name = stem ++ fileSuffix) :
    fileName name = name ++ fileSuffix :=
  if_neg fun ended => bare (isSuffixOf_fileSuffix_iff.mp ended)

/-- Every file name ends in the suffix. -/
theorem exists_stem_fileName (name : String) : ∃ stem, fileName name = stem ++ fileSuffix := by
  -- A name that ends in the suffix is its own file name, and any other gets the suffix.
  by_cases ended : ∃ stem, name = stem ++ fileSuffix
  · obtain ⟨stem, rfl⟩ := ended
    exact ⟨stem, fileName_append_suffix stem⟩
  · exact ⟨name, fileName_of_bare ended⟩

/-- A file name has its suffix already, so it is the file name of itself. -/
@[simp] theorem fileName_fileName (name : String) : fileName (fileName name) = fileName name := by
  obtain ⟨stem, named⟩ := exists_stem_fileName name
  rw [named, fileName_append_suffix]

end Template

namespace Shelves

open Template

variable (shelves : Shelves) (place : Nat) (name source : String)

/-- Putting a source on a shelf adds no shelf. -/
@[simp] theorem length_put : (shelves.put place name source).length = shelves.length := by
  simp [Shelves.put]

/-- A source that is put on a shelf stands there under its file name. -/
theorem lookup?_put_self {shelves : Shelves} {place : Nat} (room : place < shelves.length) :
    lookup? (fileName name) ((shelves.put place name source).shelf place) = some source := by
  -- The shelf at the place is there, and the source is assigned on it.
  have shelf : (shelves.put place name source).shelf place =
      Shelf.put (shelves.shelf place) name source := by
    simp [Shelves.put, Shelves.shelf, List.getElem?_eq_getElem room]
  rw [shelf, Shelf.put, lookup?_assign_self]

/-- A source that is put on a shelf leaves what stands there under other file names. -/
theorem lookup?_put_of_ne {file : String} (apart : file ≠ fileName name) :
    lookup? file ((shelves.put place name source).shelf place) =
      lookup? file (shelves.shelf place) := by
  by_cases room : place < shelves.length
  · simp [Shelves.put, Shelves.shelf, List.getElem?_eq_getElem room,
      Shelf.put, lookup?_assign_of_ne apart]
  · -- Without a shelf at the place there is nothing to put the source on.
    simp [Shelves.put, Shelves.shelf, List.getElem?_eq_none (Nat.le_of_not_lt room)]

/-- A source on a shelf is compiled under its file name. -/
theorem compile_of_lookup? {shelves : Shelves} {place : Nat} {name source : String}
    (shelved : lookup? (fileName name) (shelves.shelf place) = some source) :
    shelves.compile place name =
      (compileNodes source).map fun nodes => ⟨fileName name, nodes, place⟩ := by
  simp only [Shelves.compile, Shelf.nodes, shelved]
  cases compileNodes source <;> rfl

end Shelves

end Tablewright
