import Mathlib.Data.List.Induction
import Tablewright.Proofs.Template.Shelf
import Tablewright.Registry

/-! Compiling sources one after another: the templates made of them stay in step with the shelf. -/

namespace Tablewright.Registry

open Template

/-- A template is what a source makes under a file name at a place. -/
def MadeOf (place : Nat) (file source : String) (template : Template) : Prop :=
  ∃ nodes, compileNodes source = .ok nodes ∧ template = ⟨file, nodes, place⟩

/-- Templates, the sources they were made of, and a shelf that still holds those very sources. -/
structure InStep (place : Nat) (shelf : Shelf) (sources : Sources)
    (entries : List (String × Template)) : Prop where
  keys : keysOf entries = keysOf sources
  filed : ∀ file ∈ keysOf entries, fileName file = file
  once : (keysOf entries).Nodup
  held : ∀ file template, lookup? file entries = some template →
    ∃ source, lookup? file sources = some source ∧ lookup? file shelf = some source ∧
      MadeOf place file source template

namespace InStep

variable {place : Nat} {shelf shelf' : Shelf} {sources others : Sources}
  {entries added : List (String × Template)}

/-- No templates are in step with every shelf. -/
theorem nil : InStep place shelf [] [] :=
  ⟨rfl, by simp [keysOf], by simp [keysOf], by simp [lookup?]⟩

/-- One template is in step with a shelf that holds its source. -/
theorem single {file source : String} {template : Template} (filed : fileName file = file)
    (shelved : lookup? file shelf = some source) (made : MadeOf place file source template) :
    InStep place shelf [(file, source)] [(file, template)] := by
  -- Only one file has a template, and this is the file that the shelf holds.
  refine ⟨rfl, ?_, by simp [keysOf], ?_⟩
  · simpa [keysOf] using filed
  · intro asked answer found
    by_cases hit : file = asked
    · subst hit
      obtain rfl : template = answer := by simpa [lookup?] using found
      exact ⟨source, by simp [lookup?], shelved, made⟩
    · -- Under any other file name nothing is found.
      simp [lookup?, hit] at found

/-- Only the shelf's sources under the templates' own file names matter. -/
theorem of_shelf (step : InStep place shelf sources entries)
    (same : ∀ file ∈ keysOf entries, lookup? file shelf' = lookup? file shelf) :
    InStep place shelf' sources entries := by
  -- A template is looked up under a name that it goes by, and there the shelves agree.
  refine ⟨step.keys, step.filed, step.once, fun file template found => ?_⟩
  obtain ⟨source, given, shelved, made⟩ := step.held file template found
  have known : file ∈ keysOf entries := by
    by_contra unknown
    rw [lookup?_eq_none_iff.mpr unknown] at found
    cases found
  exact ⟨source, given, by rw [same file known, shelved], made⟩

/-- Templates under different file names are in step together when both kinds are. -/
theorem append (step : InStep place shelf sources entries)
    (step' : InStep place shelf others added)
    (apart : ∀ file ∈ keysOf added, file ∉ keysOf entries) :
    InStep place shelf (sources ++ others) (entries ++ added) := by
  -- Keys are compared list by list, and a lookup tries the first list before the second.
  refine ⟨by rw [keysOf_append, keysOf_append, step.keys, step'.keys], ?_, ?_, ?_⟩
  · intro file member
    rw [keysOf_append, List.mem_append] at member
    exact member.elim (step.filed file) (step'.filed file)
  · rw [keysOf_append, List.nodup_append]
    exact ⟨step.once, step'.once, fun file old other new same => apart other new (same ▸ old)⟩
  · intro file template found
    rw [lookup?_append] at found
    cases first : lookup? file entries with
    | some template' =>
      -- The file has a template among the first ones, which is found before all others.
      rw [first, Option.some_or] at found
      cases found
      obtain ⟨source, given, shelved, made⟩ := step.held file template first
      exact ⟨source, by rw [lookup?_append, given, Option.some_or], shelved, made⟩
    | none =>
      rw [first, Option.none_or] at found
      obtain ⟨source, given, shelved, made⟩ := step'.held file template found
      -- What has no template among the first ones has no source among theirs.
      have absent : lookup? file sources = none := by
        rw [lookup?_eq_none_iff, ← step.keys, ← lookup?_eq_none_iff]
        exact first
      exact ⟨source, by rw [lookup?_append, absent, Option.none_or, given], shelved, made⟩

end InStep

/-- Sources by their file names. -/
def filed (sources : Sources) : Sources := sources.map fun entry => (fileName entry.1, entry.2)

/-- A source that is added goes on the shelf, unless a fault stopped the run before it. -/
theorem shelves_add (place : Nat) (state : Compiling) (entry : String × String) :
    (Compiling.add place state entry).shelves = state.shelves ∨
      (Compiling.add place state entry).shelves =
        state.shelves.put place (fileName entry.1) entry.2 := by
  -- Only a run that has not failed yet looks at the source.
  unfold Compiling.add
  cases state.outcome with
  | error cause => exact .inl rfl
  | ok compiled =>
    -- A file name that came in before is a fault of its own, which comes before the shelf.
    by_cases repeated : (keysOf compiled).contains (fileName entry.1)
    · exact .inl (by simp only [repeated, if_true])
    · exact .inr (by simp only [repeated, if_false, Bool.false_eq_true])

/-- A run that goes well through a source went well before it and made one template more. -/
theorem outcome_add_eq_ok {place : Nat} {state : Compiling} {entry : String × String}
    {compiled' : List (String × Template)}
    (ran : (Compiling.add place state entry).outcome = .ok compiled') :
    ∃ compiled template, state.outcome = .ok compiled ∧
      fileName entry.1 ∉ keysOf compiled ∧
      (Compiling.add place state entry).shelves =
        state.shelves.put place (fileName entry.1) entry.2 ∧
      compileTemplate (state.shelves.put place (fileName entry.1) entry.2) place
        (fileName entry.1) = .ok template ∧
      compiled' = compiled ++ [(fileName entry.1, template)] := by
  -- The step fails behind an earlier fault, for a repeated name and for a bad source.
  unfold Compiling.add at ran ⊢
  cases before : state.outcome with
  | error cause =>
    rw [before] at ran
    dsimp only at ran
    rw [before] at ran
    cases ran
  | ok compiled =>
    rw [before] at ran
    dsimp only at ran ⊢
    by_cases repeated : (keysOf compiled).contains (fileName entry.1)
    · simp only [repeated, if_true] at ran
      cases ran
    · -- A new file name is compiled from the shelf it has just been put on.
      simp only [repeated, if_false, Bool.false_eq_true] at ran ⊢
      cases made : compileTemplate (state.shelves.put place (fileName entry.1) entry.2) place
          (fileName entry.1) with
      | error cause =>
        rw [made] at ran
        cases ran
      | ok template =>
        rw [made] at ran
        refine ⟨compiled, template, rfl, ?_, trivial, rfl, ?_⟩
        · simpa using repeated
        · exact (Except.ok.inj ran).symm

/-- A run over sources leaves all else on its shelf as it was, however the run ends. -/
theorem foldl_add_frame (place : Nat) (sources : Sources) (state : Compiling) :
    (sources.foldl (Compiling.add place) state).shelves.length = state.shelves.length ∧
      ∀ file, file ∉ keysOf (filed sources) →
        lookup? file ((sources.foldl (Compiling.add place) state).shelves.shelf place) =
          lookup? file (state.shelves.shelf place) := by
  -- The induction is on the sources, with the shelves as the first ones leave them.
  induction sources generalizing state with
  | nil => exact ⟨rfl, fun file _ => rfl⟩
  | cons entry rest ih =>
    obtain ⟨length, alone⟩ := ih (Compiling.add place state entry)
    rw [List.foldl_cons]
    -- The first source changes the shelf under its own file name at most.
    rcases shelves_add place state entry with same | put
    · rw [same] at length alone
      exact ⟨length, fun file other => alone file fun later => other (by
        simp only [filed, keysOf, List.map_cons] at later ⊢
        exact List.mem_cons_of_mem _ later)⟩
    · -- A file of none of the sources differs from the first one's, which was put.
      rw [put] at length alone
      refine ⟨by rw [length, Shelves.length_put], fun file other => ?_⟩
      have apart : file ≠ fileName entry.1 ∧ file ∉ keysOf (filed rest) := by
        simpa [filed, keysOf] using other
      rw [alone file apart.2, Shelves.lookup?_put_of_ne]
      rw [fileName_fileName]
      exact apart.1

/-- A template that a shelf gives is made of the source that stands there. -/
theorem madeOf_of_compileTemplate {shelves : Shelves} {place : Nat} {file source : String}
    {template : Template} (filed : fileName file = file)
    (shelved : lookup? file (shelves.shelf place) = some source)
    (made : compileTemplate shelves place file = .ok template) :
    MadeOf place file source template := by
  -- The shelf compiles the one source that stands there under the name.
  have stands : lookup? (fileName file) (shelves.shelf place) = some source := by
    rw [filed, shelved]
  rw [compileTemplate, Shelves.compile_of_lookup? stands] at made
  cases compiles : compileNodes source with
  | error cause =>
    rw [compiles] at made
    cases made
  | ok nodes =>
    rw [compiles, filed] at made
    exact ⟨nodes, compiles, (Except.ok.inj made).symm⟩

/-- A run over sources that goes well makes templates in step with the shelf behind it. -/
theorem inStep_foldl_add {place : Nat} {shelves : Shelves} (room : place < shelves.length)
    {sources : Sources} {compiled : List (String × Template)}
    (ran : (sources.foldl (Compiling.add place) ⟨shelves, .ok []⟩).outcome = .ok compiled) :
    InStep place ((sources.foldl (Compiling.add place) ⟨shelves, .ok []⟩).shelves.shelf place)
      (filed sources) compiled := by
  -- The last source is put on a shelf with which all templates before it are in step.
  induction sources using List.reverseRecOn generalizing compiled with
  | nil =>
    obtain rfl : [] = compiled := Except.ok.inj ran
    exact .nil
  | append_singleton sources entry ih =>
    obtain ⟨length, -⟩ := foldl_add_frame place sources ⟨shelves, .ok []⟩
    rw [List.foldl_append, List.foldl_cons, List.foldl_nil] at ran ⊢
    obtain ⟨before, template, ranBefore, fresh, put, made, rfl⟩ := outcome_add_eq_ok ran
    have whole := fileName_fileName entry.1
    rw [put]
    -- The templates before it have other file names, so their sources stay on the shelf.
    have kept := (ih ranBefore).of_shelf fun file known =>
      Shelves.lookup?_put_of_ne _ place (fileName entry.1) entry.2 (by
        rw [whole]
        rintro rfl
        exact fresh known)
    have shelved := Shelves.lookup?_put_self (fileName entry.1) entry.2 (length ▸ room)
    rw [whole] at shelved
    have new := InStep.single whole shelved (madeOf_of_compileTemplate whole shelved made)
    -- The new template stands behind those that are in step, under a name of its own.
    have all := kept.append new fun file added => by
      obtain rfl : file = fileName entry.1 := by simpa [keysOf] using added
      exact fresh
    simpa [filed] using all

end Tablewright.Registry
