import Tablewright.Proofs.Registry
import Tablewright.Proofs.Registry.Compiling
import Tablewright.Proofs.Text.Sorted

/-! Building and extending registries: the entries they get and the shelf they leave behind. -/

namespace Tablewright

namespace Registry

open Template

/-- A step that takes over every new entry under a file name takes over a run of such entries. -/
theorem foldlM_of_taking {step : List (String × Template) → String × Template →
      Except RegistryFault (List (String × Template))}
    (taking : ∀ done entry, fileName entry.1 = entry.1 → entry.1 ∉ keysOf done →
      step done entry = .ok (done ++ [entry]))
    {entries : List (String × Template)} (filed : ∀ file ∈ keysOf entries, fileName file = file)
    (done : List (String × Template)) (once : (keysOf (done ++ entries)).Nodup) :
    entries.foldlM step done = .ok (done ++ entries) := by
  -- Whatever has been taken over already is apart from the entries that are still to come.
  induction entries generalizing done with
  | nil => simp [Pure.pure, Except.pure]
  | cons entry rest ih =>
    have whole : fileName entry.1 = entry.1 := filed entry.1 (by simp [keysOf])
    have fresh : entry.1 ∉ keysOf done := by
      intro old
      rw [keysOf_append, List.nodup_append] at once
      exact once.2.2 entry.1 old entry.1 (by simp [keysOf]) rfl
    -- The others are file names too.
    have later : ∀ file ∈ keysOf rest, fileName file = file := by
      intro file member
      apply filed file
      simp only [keysOf, List.map_cons] at member ⊢
      exact List.mem_cons_of_mem _ member
    -- What is taken over first goes over to the entries that are done.
    have regrouped : done ++ entry :: rest = done ++ [entry] ++ rest := by simp
    rw [regrouped] at once ⊢
    rw [List.foldlM_cons, taking done entry whole fresh]
    exact ih later _ once

/-- Entries under different file names make a registry as they stand. -/
theorem ofEntries_of_nodup {entries : List (String × Template)}
    (filed : ∀ file ∈ keysOf entries, fileName file = file) (once : (keysOf entries).Nodup) :
    ofEntries entries = .ok ⟨entries⟩ := by
  -- Entries that go by file names are taken over under the very names they have.
  rw [ofEntries, foldlM_of_taking ?_ filed [] (by simpa using once)]
  · rfl
  · intro done entry whole fresh
    simp [whole, fresh, Pure.pure, Except.pure]

section

variable {shelves : Shelves} {place : Nat} {sources : Sources} {registry : Registry}

/-- A registry that is built of sources holds what the run over them made. -/
theorem inStep_ofSources (room : place < shelves.length)
    (built : (ofSources shelves place sources).2.result = .ok registry) :
    InStep place ((ofSources shelves place sources).1.shelf place) (filed sources)
      registry.entries := by
  -- A registry is built only where the run over the sources goes well.
  cases ran : (sources.foldl (Compiling.add place) ⟨shelves, .ok []⟩).outcome with
  -- A run that fails makes no registry.
  | error cause =>
    have failed : (ofSources shelves place sources).2.result = .error cause := by
      simp only [ofSources, ran]
      rfl
    rw [failed] at built
    cases built
  | ok compiled =>
    have step := inStep_foldl_add room ran
    -- The templates go by different file names, so they are taken over as they are.
    have made : (ofSources shelves place sources).2.result = .ok ⟨compiled⟩ := by
      simp only [ofSources, ran, Traced.liftM_eq_ofExcept, Traced.ofExcept_ok_bind,
        Traced.report_bind, ofEntries_of_nodup step.filed step.once]
      rfl
    rw [made] at built
    cases built
    exact step

/-- Building a registry leaves sources under other file names as they are. -/
theorem ofSources_frame (shelves : Shelves) (place : Nat) (sources : Sources) :
    (ofSources shelves place sources).1.length = shelves.length ∧
      ∀ file, file ∉ keysOf (filed sources) →
        lookup? file ((ofSources shelves place sources).1.shelf place) =
          lookup? file (shelves.shelf place) :=
  foldl_add_frame place sources ⟨shelves, .ok []⟩

/-- Nothing clashes when no source has the file name of a template. -/
theorem clashes_eq_nil_iff :
    registry.clashes sources = [] ↔
      ∀ file ∈ keysOf (filed sources), file ∉ keysOf registry.entries := by
  -- The clashes are the file names of sources that are known, so none is left over.
  have files : (keysOf sources).map fileName = keysOf (filed sources) := by
    simp [keysOf, filed, Function.comp_def]
  simp [clashes, List.filter_eq_nil_iff, files]

/-- Extending a registry leaves the sources of its templates as they are, however it ends. -/
theorem extended_frame (registry : Registry) (shelves : Shelves) (place : Nat)
    (sources : Sources) :
    (registry.extended shelves place sources).1.length = shelves.length ∧
      ∀ file ∈ keysOf registry.entries,
        lookup? file ((registry.extended shelves place sources).1.shelf place) =
          lookup? file (shelves.shelf place) := by
  -- A clash ends the extension before any shelf is touched.
  cases clash : registry.clashes sources with
  | nil =>
    -- Without a clash, none of the sources goes by the file name of a template.
    obtain ⟨length, alone⟩ := ofSources_frame shelves place sources
    simp only [extended, clash]
    exact ⟨length, fun file known => alone file fun added =>
      clashes_eq_nil_iff.mp clash file added known⟩
  | cons file others =>
    simp only [extended, clash]
    exact ⟨trivial, fun _ _ => trivial⟩

/-- A registry that is extended gets the new templates behind its own, still in step. -/
theorem inStep_extended {old : Registry} {given : Sources} (room : place < shelves.length)
    (step : InStep place (shelves.shelf place) given old.entries)
    (built : (old.extended shelves place sources).2.result = .ok registry) :
    InStep place ((old.extended shelves place sources).1.shelf place) (given ++ filed sources)
      registry.entries := by
  -- Without a clash the new templates are made on the shelf first, and then taken over.
  have kept := step.of_shelf (extended_frame old shelves place sources).2
  cases clash : old.clashes sources with
  -- With a clash there is no extended registry.
  | cons file others =>
    simp only [extended, clash, Traced.fail] at built
    cases built
  | nil =>
    simp only [extended, clash] at built kept ⊢
    cases ran : (ofSources shelves place sources).2 with
    | mk result log calls =>
      rw [ran] at built
      cases result with
      | error cause => cases built
      | ok added =>
        have new := inStep_ofSources room (congrArg Traced.result ran)
        have all := kept.append new fun file member =>
          clashes_eq_nil_iff.mp clash file (new.keys ▸ member)
        -- Old and new templates go by different file names, so they are taken over as they are.
        rw [Traced.ok_bind, ofEntries_of_nodup all.filed all.once] at built
        cases built
        exact all

end

end Registry

end Tablewright
