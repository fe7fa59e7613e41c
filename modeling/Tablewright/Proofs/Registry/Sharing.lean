import Tablewright.Proofs.Registry.Extension
import Tablewright.Proofs.Template.Asking

/-! Registries whose templates share a shelf: what building others does to the text of one. -/

namespace Tablewright

open Template Registry

namespace Shelves

/-- A source that is put on a shelf leaves all other shelves alone. -/
theorem shelf_put_of_ne (shelves : Shelves) {place other : Nat} (apart : other ≠ place)
    (name source : String) : (shelves.put place name source).shelf other = shelves.shelf other := by
  simp [Shelves.put, Shelves.shelf, apart.symm]

/-- A further shelf leaves those before it alone. -/
theorem shelf_append (shelves : Shelves) {place : Nat} (room : place < shelves.length)
    (shelf : Shelf) : (shelves ++ [shelf]).shelf place = shelves.shelf place := by
  simp [Shelves.shelf, List.getElem?_append_left room]

end Shelves

namespace Registry

/-- A run over sources leaves all shelves but its own alone. -/
theorem foldl_add_shelf_of_ne {place other : Nat} (apart : other ≠ place) (sources : Sources)
    (state : Compiling) :
    (sources.foldl (Compiling.add place) state).shelves.shelf other =
      state.shelves.shelf other := by
  -- A step puts its source on the shelf at its place or nowhere.
  induction sources generalizing state with
  | nil => rfl
  | cons entry rest ih =>
    rw [List.foldl_cons, ih]
    rcases shelves_add place state entry with same | put
    · rw [same]
    · rw [put, Shelves.shelf_put_of_ne _ apart]

end Registry

/-- A call that builds a registry on a shelf: on the one at a place, or on a new one. -/
structure Build where
  /-- The registry that the new one extends, if it extends one. -/
  base : Option Registry
  place : Option Nat
  sources : Sources

namespace Build

/-- The shelves and the place that a build begins with. -/
def standing (build : Build) (shelves : Shelves) : Shelves × Nat :=
  match build.place with
  | some place => (shelves, place)
  | none => (shelves ++ [[]], shelves.length)

/-- The shelves behind sources that are built at a place, by themselves or beside a registry. -/
def shelvesBehind (base : Option Registry) (shelves : Shelves) (place : Nat)
    (sources : Sources) : Shelves :=
  match base with
  | none => (ofSources shelves place sources).1
  | some registry => (registry.extended shelves place sources).1

/-- The shelves behind a build, whether it succeeds or fails. -/
def run (shelves : Shelves) (build : Build) : Shelves :=
  shelvesBehind build.base (build.standing shelves).1 (build.standing shelves).2 build.sources

/-- All that builds bring to a place goes by certain file names. -/
def Within (place : Nat) (files : List String) (builds : List Build) : Prop :=
  ∀ build ∈ builds, build.place = some place → ∀ file ∈ keysOf (filed build.sources), file ∈ files

/-- Building changes no shelf but at the place, and there no file that the sources leave out. -/
theorem shelvesBehind_frame (base : Option Registry) (shelves : Shelves) (place : Nat)
    (sources : Sources) :
    (shelvesBehind base shelves place sources).length = shelves.length ∧
      ∀ other file, (other = place → file ∉ keysOf (filed sources)) →
        lookup? file ((shelvesBehind base shelves place sources).shelf other) =
          lookup? file (shelves.shelf other) := by
  -- An extension either tells a clash and does nothing, or does what building alone does.
  have fromSources : (ofSources shelves place sources).1.length = shelves.length ∧
      ∀ other file, (other = place → file ∉ keysOf (filed sources)) →
        lookup? file ((ofSources shelves place sources).1.shelf other) =
          lookup? file (shelves.shelf other) := by
    obtain ⟨length, alone⟩ := ofSources_frame shelves place sources
    refine ⟨length, fun other file apart => ?_⟩
    by_cases same : other = place
    · subst same
      exact alone file (apart rfl)
    · exact congrArg (lookup? file) (foldl_add_shelf_of_ne same sources ⟨shelves, .ok []⟩)
  cases base with
  | none => exact fromSources
  | some registry =>
    cases clash : registry.clashes sources with
    | nil =>
      -- Without a clash, an extension puts its sources where building them alone would.
      simp only [shelvesBehind, extended, clash]
      exact fromSources
    | cons clashing others =>
      -- A clash is found before any source is put anywhere.
      simp only [shelvesBehind, extended, clash]
      exact ⟨trivial, fun _ _ _ => trivial⟩

/-- A build keeps the sources at a place, except those it brings there itself. -/
theorem run_frame {shelves : Shelves} {place : Nat} (room : place < shelves.length)
    (build : Build) :
    place < (build.run shelves).length ∧
      ∀ file, (build.place = some place → file ∉ keysOf (filed build.sources)) →
        lookup? file ((build.run shelves).shelf place) = lookup? file (shelves.shelf place) := by
  -- A new shelf is made behind all others, so only a build at the place itself can matter there.
  obtain ⟨length, alone⟩ := shelvesBehind_frame build.base (build.standing shelves).1
    (build.standing shelves).2 build.sources
  unfold run
  rw [length]
  cases placed : build.place with
  -- A build at the place itself changes nothing but the files that it brings.
  | some used =>
    have stands : build.standing shelves = (shelves, used) := by
      simp only [standing, placed]
    rw [stands] at alone ⊢
    exact ⟨room, fun file apart => alone place file fun same => apart (by rw [same])⟩
  | none =>
    have stands : build.standing shelves = (shelves ++ [[]], shelves.length) := by
      simp only [standing, placed]
    rw [stands] at alone ⊢
    refine ⟨by simp only [List.length_append]; omega, fun file _ => ?_⟩
    -- A new shelf stands behind all that are there, so the place is another one.
    rw [alone place file fun same => absurd room (by omega), Shelves.shelf_append _ room]

/-- Any number of builds keep the sources at a place, except those they bring there. -/
theorem foldl_run_frame {place : Nat} {files : List String} {builds : List Build}
    (within : Within place files builds) {shelves : Shelves} (room : place < shelves.length) :
    ∀ file, file ∉ files →
      lookup? file ((builds.foldl run shelves).shelf place) =
        lookup? file (shelves.shelf place) := by
  -- Each build keeps the room of the place and all files that no build brings there.
  induction builds generalizing shelves with
  | nil => exact fun _ _ => rfl
  | cons build rest ih =>
    intro file outside
    obtain ⟨stillRoom, alone⟩ := run_frame room build
    rw [List.foldl_cons, ih (fun later member => within later (List.mem_cons_of_mem _ member))
      stillRoom file outside]
    exact alone file fun used named =>
      outside (within build (List.mem_cons_self ..) used file named)

end Build

/-- A template asks for a file when its text cannot be had without the source of that file. -/
def Template.Asks (shelves : Shelves) (context : Context) (template : Template)
    (file : String) : Prop :=
  (shelves.shelf template.shelf).Asks template.nodes context file

/-- Two sources that make no template, each for a reason of its own. -/
theorem compileNodes_broken :
    compileNodes "\x7b%" = .error (.malformed .lacksTag) ∧
    compileNodes "\x7b\x7b" = .error (.malformed (.unexpected "end of template")) := by
  decide +kernel

/-- One build that brings a source for a file a template asks for can change its text. -/
theorem exists_text_ne {shelves : Shelves} {template : Template} {context : Context}
    {file : String} (room : template.shelf < shelves.length) (whole : fileName file = file)
    (asked : template.Asks shelves context file) :
    ∃ source, template.text (Build.run shelves ⟨none, some template.shelf, [(file, source)]⟩)
      context ≠ template.text shelves context := by
  -- Two broken sources stop the rendering for different reasons, of which one is new.
  obtain ⟨broken, broken'⟩ := compileNodes_broken
  -- Behind such a build the text is missing for the very reason its source is broken.
  have stopped : ∀ source cause, compileNodes source = .error cause →
      template.text (Build.run shelves ⟨none, some template.shelf, [(file, source)]⟩) context =
        .error (.unusable cause) := by
    intro source cause fails
    have put : Build.run shelves ⟨none, some template.shelf, [(file, source)]⟩ =
        shelves.put template.shelf file source := by
      simp [Build.run, Build.shelvesBehind, Build.standing, Registry.ofSources,
        Registry.Compiling.add, keysOf, whole]
    rw [put, Template.text]
    refine Shelf.text_of_asks asked fails ?_ fun other apart => ?_
    · have shelved := Shelves.lookup?_put_self file source room
      rwa [whole] at shelved
    · exact Shelves.lookup?_put_of_ne _ _ _ _ (by rwa [whole])
  -- The two reasons differ, so at most one of them is how the text was missing before.
  by_cases same : template.text shelves context = .error (.unusable (.malformed .lacksTag))
  · -- The text is missing for the first reason already, so the other source changes it.
    refine ⟨"\x7b\x7b", ?_⟩
    rw [stopped _ _ broken', same]
    simp
  · refine ⟨"\x7b%", ?_⟩
    rw [stopped _ _ broken]
    exact fun hit => same hit.symm

/-- Builds of other registries leave the text of a template alone exactly when they bring nothing
that it asks for to the shelf it was compiled on; one that inserts nothing asks for nothing. -/
theorem text_unchanged_iff_unasked {registry : Registry} {shelves : Shelves}
    (room : ∀ entry ∈ registry.entries, entry.2.shelf < shelves.length) (name : String)
    (template : Template) (resolved : (registry.resolve (.text name)).result = .ok template)
    (context : Context) {files : List String} (named : ∀ file ∈ files, fileName file = file) :
    ((∀ builds, Build.Within template.shelf files builds →
      template.text (builds.foldl Build.run shelves) context = template.text shelves context) ↔
      ∀ file ∈ files, ¬ template.Asks shelves context file) ∧
    (anyInserts template.nodes = false → ∀ file, ¬ template.Asks shelves context file) := by
  -- A template that resolves stands in the registry, so its shelf is there.
  have stands : template.shelf < shelves.length := by
    cases found : registry.get? (fileName name) with
    | none =>
      rw [resolve_of_get?_eq_none found] at resolved
      cases resolved
    | some held =>
      rw [resolve_of_get? found] at resolved
      cases resolved
      exact room _ (mem_of_lookup? found)
  refine ⟨⟨?onlyIf, ?ifUnasked⟩, fun closed file =>
    Shelf.not_asks_of_not_inserts closed _ context file⟩
  case onlyIf =>
    intro unchanged file member asked
    -- A single build of one broken source would show that the file is asked for.
    obtain ⟨source, differs⟩ := exists_text_ne stands (named file member) asked
    refine differs (unchanged [⟨none, some template.shelf, [(file, source)]⟩] ?_)
    intro build only _ other named'
    obtain rfl := List.mem_singleton.mp only
    obtain rfl : other = file := by simpa [filed, keysOf, named file member] using named'
    exact member
  case ifUnasked =>
    intro unasked builds within
    -- What the builds change on the shelf goes by file names that are not asked for.
    refine Shelf.text_eq_of_not_asks fun file different => ?_
    by_cases member : file ∈ files
    · exact unasked file member
    · exact absurd (Build.foldl_run_frame within stands file member) different

/-- A registry of a part and of a whole that inserts the part. -/
def partAndWhole : Registry :=
  ⟨[("part.tpl", ⟨"part.tpl", [.text "x"], 0⟩),
    ("whole.tpl", ⟨"whole.tpl", [.insert (.text "part.tpl")], 0⟩)]⟩

/-- The shelf that the part and the whole stand on. -/
def partAndWholeShelves : Shelves :=
  [[("part.tpl", "x"), ("whole.tpl", "\x7b% include 'part.tpl' %\x7d")]]

/-- The whole is safe from builds of other files, but not from builds of the part. -/
theorem text_of_whole_unless_part :
    (∀ entry ∈ partAndWhole.entries, entry.2.shelf < partAndWholeShelves.length) ∧
    ∃ whole, (partAndWhole.resolve (.text "whole")).result = .ok whole ∧
      (∀ builds, Build.Within whole.shelf ["other.tpl"] builds →
        whole.text (builds.foldl Build.run partAndWholeShelves) [] = .ok "x") ∧
      ¬ ∀ builds, Build.Within whole.shelf ["part.tpl"] builds →
        whole.text (builds.foldl Build.run partAndWholeShelves) [] =
          whole.text partAndWholeShelves [] := by
  -- The whole asks for the part, but not for the other file.
  have room : ∀ entry ∈ partAndWhole.entries, entry.2.shelf < partAndWholeShelves.length := by
    decide
  have resolved : (partAndWhole.resolve (.text "whole")).result =
      .ok ⟨"whole.tpl", [.insert (.text "part.tpl")], 0⟩ := by decide +kernel
  have text : Template.text ⟨"whole.tpl", [.insert (.text "part.tpl")], 0⟩ partAndWholeShelves [] =
      .ok "x" := by decide +kernel
  have others : ∀ file ∈ ["other.tpl"], fileName file = file := by decide
  have parts : ∀ file ∈ ["part.tpl"], fileName file = file := by decide
  have unasked : ∀ file ∈ ["other.tpl"],
      ¬ Template.Asks partAndWholeShelves []
        ⟨"whole.tpl", [.insert (.text "part.tpl")], 0⟩ file := by
    unfold Template.Asks Shelf.Asks
    decide +kernel
  have asked : Template.Asks partAndWholeShelves []
      ⟨"whole.tpl", [.insert (.text "part.tpl")], 0⟩ "part.tpl" := by
    unfold Template.Asks Shelf.Asks
    decide +kernel
  -- One general statement tells the other file apart from the part.
  refine ⟨room, _, resolved, fun builds within => ?_, fun unchanged => ?_⟩
  · -- Nothing that the whole asks for is among the other files.
    have safe := text_unchanged_iff_unasked room "whole" _ resolved [] others
    rw [safe.1.mpr unasked builds within, text]
  · -- Were the text always unchanged, the part would not be asked for.
    have exposed := text_unchanged_iff_unasked room "whole" _ resolved [] parts
    exact exposed.1.mp unchanged "part.tpl" (by simp) asked

/-- A registry does change with its shelf: another one that is built there with a part of the same
name changes the text of the whole. -/
theorem text_changed_by_build :
    (ofSources [[]] 0 [("part", "x"), ("whole", "\x7b% include 'part.tpl' %\x7d")]).1 =
      partAndWholeShelves ∧
    (ofSources [[]] 0 [("part", "x"), ("whole", "\x7b% include 'part.tpl' %\x7d")]).2.result =
      .ok partAndWhole ∧
    ∃ whole, (partAndWhole.resolve (.text "whole")).result = .ok whole ∧
      whole.text partAndWholeShelves [] = .ok "x" ∧
      (ofSources partAndWholeShelves 0 [("part", "y")]).2.result =
        .ok ⟨[("part.tpl", ⟨"part.tpl", [.text "y"], 0⟩)]⟩ ∧
      whole.text (Build.run partAndWholeShelves ⟨none, some 0, [("part", "y")]⟩) [] =
        .ok "y" := by
  refine ⟨by decide +kernel, by decide +kernel, ⟨"whole.tpl", [.insert (.text "part.tpl")], 0⟩, ?_⟩
  decide +kernel

end Tablewright
