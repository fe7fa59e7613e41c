import Mathlib.Data.List.Forall2
import Tablewright.Proofs.Registry.Extension

/-! When sources make a registry or extend one, and the entries that are appended for them. -/

namespace Tablewright.Registry

open Template

/-- An entry is made of a source: under its file name, a template with its nodes at a place. -/
def EntryOf (place : Nat) (source : String × String) (entry : String × Template) : Prop :=
  entry.1 = fileName source.1 ∧ MadeOf place (fileName source.1) source.2 entry.2

/-- Entries stand one by one for sources, in the order of the sources. -/
abbrev EntriesOf (place : Nat) : Sources → List (String × Template) → Prop :=
  List.Forall₂ (EntryOf place)

/-- File names of sources have their suffix. -/
theorem fileName_of_mem_filed {sources : Sources} {file : String}
    (member : file ∈ keysOf (filed sources)) : fileName file = file := by
  -- A file name stays the same when the suffix is asked for a second time.
  obtain ⟨_, inside, rfl⟩ := List.mem_map.mp member
  obtain ⟨source, -, rfl⟩ := List.mem_map.mp inside
  exact fileName_fileName source.1

/-- A source makes one template. -/
theorem MadeOf.unique {place : Nat} {file source : String} {template template' : Template}
    (made : MadeOf place file source template) (made' : MadeOf place file source template') :
    template = template' := by
  -- The nodes are what the one source compiles to, and the rest is told by the name.
  obtain ⟨nodes, compiles, rfl⟩ := made
  obtain ⟨nodes', compiles', rfl⟩ := made'
  rw [Except.ok.inj (compiles.symm.trans compiles')]

section

variable {place : Nat} {sources : Sources} {entries : List (String × Template)}

/-- Entries go by the file names of their sources. -/
theorem keysOf_entriesOf (made : EntriesOf place sources entries) :
    keysOf entries = keysOf (filed sources) := by
  -- The induction follows the entries and their sources side by side.
  induction made with
  | nil => rfl
  | cons first _ ih =>
    simp only [keysOf, filed, List.map_cons, first.1] at ih ⊢
    rw [ih]

/-- Sources have entries exactly when each of them makes a template. -/
theorem exists_entriesOf_iff (place : Nat) (sources : Sources) :
    (∃ entries, EntriesOf place sources entries) ↔
      ∀ source ∈ sources, ∃ nodes, compileNodes source.2 = .ok nodes := by
  -- An entry is told by its source, so entries are found one by one.
  induction sources with
  | nil => exact ⟨fun _ => by simp, fun _ => ⟨[], .nil⟩⟩
  | cons source rest ih =>
    rw [List.forall_mem_cons, ← ih]
    constructor
    · -- The first entry was made of the first source, which therefore compiles.
      rintro ⟨_, made⟩
      cases made with
      | cons first others =>
        obtain ⟨-, nodes, compiles, -⟩ := first
        exact ⟨⟨nodes, compiles⟩, _, others⟩
    · -- The nodes of the first source are all that its entry needs.
      rintro ⟨⟨nodes, compiles⟩, entries, others⟩
      exact ⟨(fileName source.1, ⟨fileName source.1, nodes, place⟩) :: entries,
        .cons ⟨rfl, nodes, compiles, rfl⟩ others⟩

/-- What is found among entries under a file name is made of the source of that file name. -/
theorem lookup?_entriesOf_iff (made : EntriesOf place sources entries)
    (once : (keysOf (filed sources)).Nodup) {file : String} {template : Template} :
    lookup? file entries = some template ↔
      ∃ source ∈ sources, fileName source.1 = file ∧ MadeOf place file source.2 template := by
  -- Distinct file names let the first hit be the only one.
  induction made with
  | nil => simp [lookup?]
  | @cons source entry rest entries first others ih =>
    obtain ⟨named, held⟩ := first
    obtain ⟨alone, distinct⟩ := List.nodup_cons.mp once
    simp only [lookup?, List.mem_cons, exists_eq_or_imp]
    by_cases hit : entry.1 = file
    · -- No other source goes by this file name.
      have none : ¬ ∃ other ∈ rest, fileName other.1 = file ∧
          MadeOf place file other.2 template := by
        rintro ⟨other, member, same, -⟩
        refine alone (List.mem_map.mpr ⟨(fileName other.1, other.2), List.mem_map.mpr
          ⟨other, member, rfl⟩, ?_⟩)
        exact same.trans (hit.symm.trans named)
      rw [if_pos hit, or_iff_left none, Option.some_inj, ← hit, named]
      exact ⟨fun same => ⟨rfl, same ▸ held⟩, fun found => held.unique found.2⟩
    · -- The first source goes by another file name, so it is passed over on both sides.
      rw [if_neg hit, ih distinct, or_iff_right fun found => hit (named.trans found.1)]

/-- The entries of two runs of sources follow each other. -/
theorem entriesOf_append_iff {more : Sources} :
    EntriesOf place (sources ++ more) entries ↔
      ∃ first second, EntriesOf place sources first ∧ EntriesOf place more second ∧
        entries = first ++ second := by
  -- Entries are cut where the first sources end.
  constructor
  · intro made
    exact ⟨_, _, (List.forall₂_take_append entries sources more made.flip).flip,
      (List.forall₂_drop_append entries sources more made.flip).flip,
      (List.take_append_drop ..).symm⟩
  · -- Put together again they correspond one by one.
    rintro ⟨first, second, made, made', rfl⟩
    exact List.rel_append made made'

end

section

variable {place : Nat} {shelves : Shelves} (room : place < shelves.length)
include room

/-- A source that is put on a shelf is what is compiled there. -/
theorem compileTemplate_put (name source : String) :
    compileTemplate (shelves.put place (fileName name) source) place (fileName name) =
      ((compileNodes source).map fun nodes => ⟨fileName name, nodes, place⟩).mapError
        (.uncompilable (fileName name)) := by
  -- What is put on the shelf is looked up there under the same file name.
  have shelved := Shelves.lookup?_put_self (fileName name) source room
  rw [compileTemplate, Shelves.compile_of_lookup? shelved, fileName_fileName]

/-- A source is added exactly when its file name is new and it makes a template. -/
theorem outcome_add_eq_ok_iff {done compiled : List (String × Template)}
    {source : String × String} :
    (Compiling.add place ⟨shelves, .ok done⟩ source).outcome = .ok compiled ↔
      fileName source.1 ∉ keysOf done ∧
        ∃ entry, EntryOf place source entry ∧ compiled = done ++ [entry] := by
  -- A file name that is known stops the step before its source is looked at.
  by_cases known : fileName source.1 ∈ keysOf done
  · simp [Compiling.add, known]
  · have fresh : (keysOf done).contains (fileName source.1) = false := by simpa using known
    simp only [Compiling.add, fresh, compileTemplate_put room, known, not_false_eq_true, true_and,
      Bool.false_eq_true, if_false]
    -- A new file name is put on the shelf, and then the source decides alone.
    cases compiles : compileNodes source.2 with
    | error cause =>
      simp [EntryOf, MadeOf, compiles, Except.map, Except.mapError]
    | ok nodes =>
      simp only [Except.map, Except.mapError, Except.ok.injEq]
      constructor
      · rintro rfl
        exact ⟨_, ⟨rfl, nodes, compiles, rfl⟩, rfl⟩
      · -- Compiling has one result, so the entry is the one that was added.
        rintro ⟨⟨file, template⟩, ⟨rfl, nodes', compiles', rfl⟩, rfl⟩
        rw [compiles] at compiles'
        cases compiles'
        rfl

end

/-- Behind a fault no source is added. -/
theorem foldl_add_of_error (place : Nat) (shelves : Shelves) (cause : RegistryFault)
    (sources : Sources) :
    sources.foldl (Compiling.add place) ⟨shelves, .error cause⟩ = ⟨shelves, .error cause⟩ := by
  -- The fault is handed on from source to source, and nothing is put on a shelf any more.
  induction sources with
  | nil => rfl
  | cons source rest ih => rw [List.foldl_cons, Compiling.add, ih]

/-- Sources are added exactly when their file names are new and differ and each makes a template. -/
theorem outcome_foldl_add_eq_ok_iff {place : Nat} {shelves : Shelves}
    (room : place < shelves.length) {sources : Sources}
    {done compiled : List (String × Template)} :
    (sources.foldl (Compiling.add place) ⟨shelves, .ok done⟩).outcome = .ok compiled ↔
      (keysOf (filed sources)).Nodup ∧ (∀ file ∈ keysOf (filed sources), file ∉ keysOf done) ∧
        ∃ added, EntriesOf place sources added ∧ compiled = done ++ added := by
  -- By induction over the sources, with what the earlier ones have added as the invariant.
  induction sources generalizing shelves done with
  | nil => simp [filed, keysOf, eq_comm]
  | cons source rest ih =>
    have keys : keysOf (filed (source :: rest)) = fileName source.1 :: keysOf (filed rest) := rfl
    rw [List.foldl_cons, keys, List.nodup_cons, List.forall_mem_cons]
    cases step : Compiling.add place ⟨shelves, .ok done⟩ source with | mk shelves' outcome =>
    have ran : (Compiling.add place ⟨shelves, .ok done⟩ source).outcome = outcome := by rw [step]
    cases outcome with
    | error cause =>
      rw [foldl_add_of_error]
      refine ⟨(by rintro ⟨⟩), ?_⟩
      rintro ⟨-, ⟨fresh, -⟩, _, made, -⟩
      cases made with
      | cons first others =>
        -- The first source could be added, and yet the run stopped at it.
        rw [(outcome_add_eq_ok_iff room).mpr ⟨fresh, _, first, rfl⟩] at ran
        cases ran
    | ok done' =>
      obtain ⟨fresh, entry, first, rfl⟩ := (outcome_add_eq_ok_iff room).mp ran
      -- The first source is added, and there is still room for the others.
      have room' : place < shelves'.length := by
        obtain ⟨length, -⟩ := foldl_add_frame place [source] ⟨shelves, .ok done⟩
        rw [List.foldl_cons, List.foldl_nil, step] at length
        exact length ▸ room
      rw [ih room']
      have keys' : keysOf (done ++ [entry]) = keysOf done ++ [fileName source.1] := by
        rw [keysOf_append, ← first.1]
        rfl
      constructor
      · -- File names that are new behind the first source are new before it, and none is its own.
        rintro ⟨once, new, added, made, rfl⟩
        refine ⟨⟨fun again => ?_, once⟩, ⟨fresh, fun file member known => ?_⟩, entry :: added,
          .cons first made, by simp⟩
        · exact new _ again (by simp [keys'])
        · exact new file member (by simp [keys', known])
      · -- The first entry is the one that the step has made, since a source makes one template.
        rintro ⟨⟨alone, once⟩, ⟨-, new⟩, _, made, rfl⟩
        cases made with
        | @cons _ entry' _ added first' others =>
          obtain rfl : entry = entry' :=
            Prod.ext (first.1.trans first'.1.symm) (first.2.unique first'.2)
          refine ⟨once, fun file member known => ?_, added, others, by simp⟩
          rw [keys', List.mem_append, List.mem_singleton] at known
          rcases known with known | rfl
          · exact new file member known
          · exact alone member

/-- The entries of a registry go by file names, each of them once. -/
structure Proper (registry : Registry) : Prop where
  filed : ∀ file ∈ keysOf registry.entries, fileName file = file
  once : (keysOf registry.entries).Nodup

/-- Entries of new names stand properly behind others. -/
theorem proper_append {entries added : List (String × Template)} (proper : Proper ⟨entries⟩)
    (proper' : Proper ⟨added⟩) (fresh : ∀ file ∈ keysOf added, file ∉ keysOf entries) :
    Proper ⟨entries ++ added⟩ := by
  -- Each name has its suffix on its own side, and the two sides share none.
  refine ⟨fun file member => ?_, ?_⟩
  · rw [keysOf_append, List.mem_append] at member
    exact member.elim (proper.filed file) (proper'.filed file)
  · rw [keysOf_append, List.nodup_append]
    exact ⟨proper.once, proper'.once, fun file known other member same =>
      fresh other member (same ▸ known)⟩

/-- Entries of sources are proper when the file names of the sources differ. -/
theorem proper_entriesOf {place : Nat} {sources : Sources} {entries : List (String × Template)}
    (made : EntriesOf place sources entries) (once : (keysOf (filed sources)).Nodup) :
    Proper ⟨entries⟩ := by
  -- The entries go by the file names of their sources, which settles both parts.
  rw [← keysOf_entriesOf made] at once
  refine ⟨fun file member => ?_, once⟩
  rw [keysOf_entriesOf made] at member
  exact fileName_of_mem_filed member

/-- Every registry of named templates is proper. -/
theorem proper_of_ofEntries {templates : List (String × Template)} {registry : Registry}
    (built : ofEntries templates = .ok registry) : registry.Proper := by
  obtain ⟨entries, taken, made⟩ := exists_of_bind_eq_ok built
  obtain rfl : ⟨entries⟩ = registry := Except.ok.inj made
  -- Each template that is taken over goes by a file name that none before it goes by.
  refine foldlM_keeps (fun done => Proper ⟨done⟩) ?_ taken ⟨by simp [keysOf], by simp [keysOf]⟩
  intro done template next proper ran
  by_cases known : (keysOf done).contains (fileName template.1)
  · -- A name that is known already would have stopped the run.
    simp only [known, if_true] at ran
    cases ran
  · simp only [known, if_false, Bool.false_eq_true] at ran
    obtain rfl : done ++ [(fileName template.1, template.2)] = next := Except.ok.inj ran
    have single : Proper ⟨[(fileName template.1, template.2)]⟩ :=
      ⟨by simp [keysOf, fileName_fileName], by simp [keysOf]⟩
    exact proper_append proper single (by simpa [keysOf] using known)

/-- The entries of a proper registry make that registry. -/
theorem ofEntries_of_proper {registry : Registry} (proper : registry.Proper) :
    ofEntries registry.entries = .ok registry :=
  ofEntries_of_nodup proper.filed proper.once

/-- A registry of sources is made of the entries that compiling them gives. -/
theorem result_ofSources (shelves : Shelves) (place : Nat) (sources : Sources) :
    (ofSources shelves place sources).2.result =
      (sources.foldl (Compiling.add place) ⟨shelves, .ok []⟩).outcome >>= ofEntries := by
  -- The log of a build tells nothing of its outcome.
  dsimp only [ofSources]
  cases (sources.foldl (Compiling.add place) ⟨shelves, .ok []⟩).outcome <;> rfl

/-- Sources compile exactly when their file names differ and each makes a template. -/
theorem outcome_compiled_eq_ok_iff {place : Nat} {shelves : Shelves}
    (room : place < shelves.length) {sources : Sources} {compiled : List (String × Template)} :
    (sources.foldl (Compiling.add place) ⟨shelves, .ok []⟩).outcome = .ok compiled ↔
      (keysOf (filed sources)).Nodup ∧ EntriesOf place sources compiled := by
  rw [outcome_foldl_add_eq_ok_iff room]
  simp [keysOf]

/-- Sources make a registry exactly when their file names differ and each makes a template. -/
theorem ofSources_eq_ok_iff {place : Nat} {shelves : Shelves} (room : place < shelves.length)
    {sources : Sources} {registry : Registry} :
    (ofSources shelves place sources).2.result = .ok registry ↔
      (keysOf (filed sources)).Nodup ∧ EntriesOf place sources registry.entries := by
  -- Compiled entries have file names that differ, so the check of names never refuses them.
  have taken : ∀ compiled, (keysOf (filed sources)).Nodup → EntriesOf place sources compiled →
      ofEntries compiled = .ok ⟨compiled⟩ :=
    fun _ once made => ofEntries_of_proper (proper_entriesOf made once)
  rw [result_ofSources]
  constructor
  · -- What was compiled is what the registry holds.
    intro built
    obtain ⟨compiled, outcome, built⟩ := exists_of_bind_eq_ok built
    obtain ⟨once, made⟩ := (outcome_compiled_eq_ok_iff room).mp outcome
    obtain rfl : ⟨compiled⟩ = registry := Except.ok.inj ((taken _ once made).symm.trans built)
    exact ⟨once, made⟩
  · rintro ⟨once, made⟩
    rw [(outcome_compiled_eq_ok_iff room).mpr ⟨once, made⟩]
    exact taken _ once made

section

variable {place : Nat} {shelves : Shelves} (room : place < shelves.length) {old new : Registry}
  (proper : old.Proper) {sources : Sources}
include room proper

/-- A registry is extended exactly when the file names of the sources are new and differ and each
source makes a template; the entries of the sources then stand behind those that were there. -/
theorem extended_eq_ok_iff :
    (old.extended shelves place sources).2.result = .ok new ↔
      (∀ file ∈ keysOf (filed sources), file ∉ keysOf old.entries) ∧
        (keysOf (filed sources)).Nodup ∧
          ∃ added, EntriesOf place sources added ∧ new = ⟨old.entries ++ added⟩ := by
  -- Without a clash the entries of the sources are made alone and then put behind the old ones.
  by_cases fresh : ∀ file ∈ keysOf (filed sources), file ∉ keysOf old.entries
  · have result : (old.extended shelves place sources).2.result =
        (ofSources shelves place sources).2.result >>= fun added =>
          ofEntries (old.entries ++ added.entries) := by
      simp only [extended, clashes_eq_nil_iff.mpr fresh]
      cases ofSources shelves place sources with | mk after built =>
      obtain ⟨outcome, log, calls⟩ := built
      cases outcome <;> rfl
    -- Entries of new names are taken over as they stand.
    have taken : ∀ added, (keysOf (filed sources)).Nodup → EntriesOf place sources added →
        ofEntries (old.entries ++ added) = .ok ⟨old.entries ++ added⟩ :=
      fun _ once made => ofEntries_of_proper (proper_append proper (proper_entriesOf made once)
        (keysOf_entriesOf made ▸ fresh))
    rw [result]
    constructor
    · -- The sources made a registry of their own first, and it was taken over whole.
      intro built
      obtain ⟨registry, added, built⟩ := exists_of_bind_eq_ok built
      obtain ⟨once, made⟩ := (ofSources_eq_ok_iff room).mp added
      exact ⟨fresh, once, _, made, Except.ok.inj (built.symm.trans (taken _ once made))⟩
    · rintro ⟨-, once, added, made, rfl⟩
      have registry : (ofSources shelves place sources).2.result = .ok ⟨added⟩ :=
        (ofSources_eq_ok_iff room).mpr ⟨once, made⟩
      rw [registry]
      exact taken added once made
  · -- A clash is told before anything is made.
    refine ⟨fun built => ?_, fun clear => absurd clear.1 fresh⟩
    cases clash : old.clashes sources with
    | nil => exact absurd (clashes_eq_nil_iff.mp clash) fresh
    | cons file others =>
      simp only [extended, clash, Traced.fail] at built
      cases built

/-- An extended registry is proper again. -/
theorem Proper.extended (built : (old.extended shelves place sources).2.result = .ok new) :
    new.Proper := by
  obtain ⟨fresh, once, added, made, rfl⟩ := (extended_eq_ok_iff room proper).mp built
  exact proper_append proper (proper_entriesOf made once) (keysOf_entriesOf made ▸ fresh)

end

end Tablewright.Registry
