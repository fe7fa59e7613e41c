import Tablewright.Proofs.Registry.Extension
import Tablewright.Proofs.Template.Alike
import Tablewright.Proofs.Template.Compiling
import Tablewright.Proofs.Template.Held

/-! Registries that grow on one shelf: whatever fails on the way, both stay in step. -/

namespace Tablewright

open Template Registry

/-- A registry that is extended time and again, and the shelves that it stands on. -/
structure Growing where
  shelves : Shelves
  registry : Registry
  /-- The sources that the templates of the registry were made of, by file name. -/
  sources : Sources

namespace Growing

/-- A failed extension leaves the registry as it is, but not the shelf that it had begun to fill. -/
def extend (place : Nat) (state : Growing) (sources : Sources) : Growing :=
  let (shelves, extended) := state.registry.extended state.shelves place sources
  match extended.result with
  | .ok registry => ⟨shelves, registry, state.sources ++ filed sources⟩
  | .error _ => { state with shelves }

/-- The shelf at a place holds the very sources that the templates of the registry are made of. -/
structure Steady (place : Nat) (state : Growing) : Prop where
  room : place < state.shelves.length
  step : InStep place (state.shelves.shelf place) state.sources state.registry.entries

section

variable {place : Nat} {state : Growing}

/-- An extension keeps shelf and registry in step, whether it succeeds or fails. -/
theorem Steady.extend (steady : Steady place state) (sources : Sources) :
    Steady place (state.extend place sources) := by
  -- Extending keeps the room whether it succeeds or fails.
  obtain ⟨length, same⟩ := extended_frame state.registry state.shelves place sources
  have room : place < (state.registry.extended state.shelves place sources).1.length := by
    rw [length]
    exact steady.room
  unfold Growing.extend
  cases result : (state.registry.extended state.shelves place sources).2.result with
  | ok registry =>
    simp only [result]
    exact ⟨room, inStep_extended steady.room steady.step result⟩
  | error cause =>
    -- What a failed extension leaves on the shelf goes by other file names than the templates.
    simp only [result]
    exact ⟨room, steady.step.of_shelf same⟩

/-- Any number of extensions keep shelf and registry in step. -/
theorem Steady.foldl_extend (steady : Steady place state) (batches : List Sources) :
    Steady place (batches.foldl (Growing.extend place) state) := by
  -- The induction is on the batches, of which each keeps the two in step.
  induction batches generalizing state with
  | nil => exact steady
  | cons sources rest ih => exact ih (steady.extend sources)

/-- A resolved name has a source, which the shelf holds and from which the template is made. -/
theorem Steady.held_of_resolve (steady : Steady place state) {name : String}
    {template : Template} (resolved : (state.registry.resolve (.text name)).result = .ok template) :
    ∃ source, lookup? (fileName name) state.sources = some source ∧
      lookup? (fileName name) (state.shelves.shelf place) = some source ∧
      MadeOf place (fileName name) source template := by
  -- A name resolves to what is found under its file name, and that has a source.
  cases found : state.registry.get? (fileName name) with
  -- Where nothing is found the name does not resolve.
  | none =>
    rw [resolve_of_get?_eq_none found] at resolved
    cases resolved
  | some held =>
    rw [resolve_of_get? found] at resolved
    cases resolved
    exact steady.step.held _ _ found

/-- The template that a shelf gives anew for a resolved name is the one of the registry. -/
theorem compile_of_madeOf {shelves : Shelves} {name source : String} {template : Template}
    (shelved : lookup? (fileName name) (shelves.shelf place) = some source)
    (made : MadeOf place (fileName name) source template) :
    shelves.compile place name = .ok template := by
  -- The shelf still holds the source that the template was made of.
  obtain ⟨nodes, compiles, rfl⟩ := made
  rw [Shelves.compile_of_lookup? shelved, compiles]
  rfl

/-- A source that is inserted under its file name gives the text of the nodes made of it. -/
theorem insert_of_madeOf {shelf : Shelf} {file source : String} {template : Template}
    (shelved : lookup? file shelf = some source) (made : MadeOf place file source template)
    (depth : Nat) (scope : List (String × Held)) :
    shelf.insertIn .held (depth + 1) (.leaf (.text file)) scope =
      Prod.fst <$> renderNodesIn .held (shelf.insertIn .held depth) scope template.nodes := by
  -- The nodes that the shelf gives for the file are those of its source.
  obtain ⟨nodes, compiles, rfl⟩ := made
  have found : (shelf.nodes file).mapError RunFault.unusable = .ok nodes := by
    rw [Shelf.nodes, shelved]
    exact congrArg (Except.mapError RunFault.unusable) compiles
  have asked : run (insertedFile (.text file)) = .ok file := rfl
  -- A text is looked at as it is, and asks for the file of its name.
  rw [Shelf.insertIn, look_leaf, pure_bind, asked, liftM_ok, pure_bind, found, liftM_ok, pure_bind,
    map_eq_pure_bind]

end

/-- However a registry grew on a new shelf, its templates are made of the sources held there. -/
theorem resolve_in_step (others : Shelves) (sources : Sources) {registry : Registry}
    (built : (ofSources (others ++ [[]]) others.length sources).2.result = .ok registry)
    (batches : List Sources) :
    let state := batches.foldl (Growing.extend others.length)
      ⟨(ofSources (others ++ [[]]) others.length sources).1, registry, filed sources⟩
    ∀ name template, (state.registry.resolve (.text name)).result = .ok template →
      (∃ source, lookup? (fileName name) state.sources = some source ∧
        lookup? (fileName name) (state.shelves.shelf others.length) = some source ∧
        compileNodes source = .ok template.nodes) ∧
      (∃ compiled, state.shelves.compile others.length name = .ok compiled ∧
        ∀ context, compiled.text state.shelves context = template.text state.shelves context) ∧
      ∀ asked user, (state.registry.resolve (.text asked)).result = .ok user →
        ∀ depth scope,
          (state.shelves.shelf user.shelf).insertIn .held (depth + 1)
              (.leaf (.text (fileName name))) scope =
            Prod.fst <$> renderNodesIn .held
              ((state.shelves.shelf user.shelf).insertIn .held depth) scope template.nodes := by
  -- The first registry starts out in step, and every batch keeps it so.
  have room : others.length < (others ++ [[]]).length := by simp
  have start : Steady others.length
      ⟨(ofSources (others ++ [[]]) others.length sources).1, registry, filed sources⟩ := by
    refine ⟨?_, inStep_ofSources room built⟩
    rw [(ofSources_frame ..).1]
    exact room
  have steady := start.foldl_extend batches
  intro state name template resolved
  obtain ⟨source, given, shelved, made⟩ := steady.held_of_resolve resolved
  -- The three parts follow from the source that the shelf and the registry share.
  refine ⟨⟨source, given, shelved, ?_⟩, ⟨template, compile_of_madeOf shelved made, fun _ => rfl⟩,
    fun asked user resolved' depth scope => ?_⟩
  · obtain ⟨nodes, compiles, rfl⟩ := made
    exact compiles
  · -- Every template of the registry inserts from the one shelf that the registry grows on.
    obtain ⟨-, -, -, -, -, rfl⟩ := steady.held_of_resolve resolved'
    exact insert_of_madeOf shelved made depth scope

/-- A registry of one template, which is one text. -/
def parts : Registry := ⟨[("part.tpl", ⟨"part.tpl", [.text "x"], 0⟩)]⟩

/-- The registry of one part behind a clash, a source that makes no template, and a new try. -/
def grownParts : Growing :=
  [[("part.tpl", "y")],
    [("whole", "\x7b% include 'part.tpl' %\x7d"), ("broken", "\x7b%")],
    [("whole", "-\x7b% include 'part.tpl' %\x7d-")]].foldl (Growing.extend 0)
      ⟨(ofSources ([] ++ [[]]) 0 [("part", "x")]).1, parts, filed [("part", "x")]⟩

/-- Behind failures of two kinds, a later template inserts the part that was there first. -/
theorem resolve_in_step_parts :
    (ofSources ([] ++ [[]]) 0 [("part", "x")]).2.result = .ok parts ∧
    ∃ part whole, (grownParts.registry.resolve (.text "part")).result = .ok part ∧
      (grownParts.registry.resolve (.text "whole")).result = .ok whole ∧
      compileNodes "x" = .ok part.nodes ∧
      ((grownParts.shelves.shelf whole.shelf).insertIn .held 1
        (.leaf (.text (fileName "part"))) []).run' [] = .ok "x" := by
  -- The first batch and both names are computed; what is inserted follows from the statement.
  have called : fileName "part" = "part.tpl" ∧ fileName "part.tpl" = "part.tpl" := by decide
  have compiled : compileNodes "x" = .ok [.text "x"] :=
    compileNodes_of_chars rfl (by decide +kernel)
  have built : (ofSources ([] ++ [[]]) 0 [("part", "x")]).2.result = .ok parts := by
    have ran : [("part", "x")].foldl (Compiling.add 0) ⟨[[]], .ok []⟩ =
        ⟨[[("part.tpl", "x")]], .ok parts.entries⟩ := by
      simp [Compiling.add, called, keysOf, Shelves.put, Shelf.put, assign, compileTemplate,
        Shelves.compile, Shelves.shelf, Shelf.nodes, lookup?, compiled, parts, Bind.bind,
        Except.bind, Pure.pure, Except.pure, Except.map]
    rw [List.nil_append, ofSources_of_compiled ran
      (ofEntries_of_nodup (by simp [keysOf, parts, called]) (by simp [keysOf, parts]))]
  obtain ⟨part, found⟩ : ∃ part, (grownParts.registry.resolve (.text "part")).result = .ok part :=
    exists_ok_of_isSome (by decide +kernel)
  obtain ⟨whole, found'⟩ :
      ∃ whole, (grownParts.registry.resolve (.text "whole")).result = .ok whole :=
    exists_ok_of_isSome (by decide +kernel)
  -- The later sources do not change what the part was made of.
  obtain ⟨⟨source, given, -, compiles⟩, -, inserted⟩ :=
    resolve_in_step [] [("part", "x")] built _ "part" part found
  have same : lookup? (fileName "part") grownParts.sources = some "x" := by decide +kernel
  obtain rfl : "x" = source := Option.some.inj (same.symm.trans given)
  have nodes : [.text "x"] = part.nodes := Except.ok.inj (compiled.symm.trans compiles)
  have served := inserted "whole" whole found' 0 []
  rw [← nodes] at served
  exact ⟨built, part, whole, found, found', compiles,
    congrArg (fun act : Acting String => act.run' []) served⟩

end Growing

end Tablewright
