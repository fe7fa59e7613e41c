import Tablewright.Proofs.Generation.Ending
import Tablewright.Proofs.Registry.Appending
import Tablewright.Proofs.Target.BuiltIn
import Tablewright.Proofs.Template.Held

/-! Extending a registry: all it had stays, step by step or at once, and so do built-in targets. -/

namespace Tablewright

namespace Registry

open Template

/-- Clashing file names are told in increasing order, each of them once and no other ones. -/
theorem increasingSetOf_clashes (registry : Registry) (sources : Sources) :
    IncreasingSetOf (registry.clashes sources)
      ((keysOf (filed sources)).filter fun file => file ∈ keysOf registry.entries) := by
  -- The clashes are a part of the sorted names, so they are sorted as these are.
  have files : (keysOf sources).map fileName = keysOf (filed sources) := by
    simp [keysOf, filed, Function.comp_def]
  refine ⟨(Text.pairwise_sorted (nodup_eraseDups _)).filter _, fun file => ?_⟩
  simp [clashes, files]

/-- A clash is told before any source is put on a shelf, whatever else is wrong with the sources. -/
theorem extended_of_clash {registry : Registry} {sources : Sources} {file : String}
    (given : file ∈ keysOf (filed sources)) (known : file ∈ keysOf registry.entries)
    (shelves : Shelves) (place : Nat) :
    registry.extended shelves place sources =
      (shelves, .fail (.duplicate (registry.clashes sources))) := by
  -- One clash is enough for the list of them not to be empty.
  cases clash : registry.clashes sources with
  | nil => exact absurd known (clashes_eq_nil_iff.mp clash file given)
  | cons first others => simp only [extended, clash]

section

variable {place : Nat} {shelves : Shelves} (room : place < shelves.length) {old new : Registry}
  (proper : old.Proper) {sources : Sources}
include room proper

/-- Extending step by step is extending at once, and fails when that does. -/
theorem extended_extended_iff {more : Sources} :
    (∃ middle, (old.extended shelves place sources).2.result = .ok middle ∧
      (middle.extended (old.extended shelves place sources).1 place more).2.result = .ok new) ↔
      (old.extended shelves place (sources ++ more)).2.result = .ok new := by
  -- Extending keeps the room for shelves, and joined sources go by joined file names.
  have room' : place < (old.extended shelves place sources).1.length := by
    rw [(extended_frame old shelves place sources).1]
    exact room
  have keys : keysOf (filed (sources ++ more)) = keysOf (filed sources) ++ keysOf (filed more) := by
    rw [filed, List.map_append, keysOf_append, ← filed, ← filed]
  rw [extended_eq_ok_iff room proper, keys]
  -- Either way the later file names differ from those of the registry and from the earlier ones.
  constructor
  · -- Two successes tell of all file names at once.
    rintro ⟨middle, first, second⟩
    obtain ⟨fresh', once', added', made', rfl⟩ :=
      (extended_eq_ok_iff room' (proper.extended room first)).mp second
    obtain ⟨fresh, once, added, made, rfl⟩ := (extended_eq_ok_iff room proper).mp first
    have apart : ∀ file ∈ keysOf (filed more),
        file ∉ keysOf old.entries ∧ file ∉ keysOf (filed sources) := by
      intro file member
      have unknown := fresh' file member
      rw [keysOf_append, keysOf_entriesOf made, List.mem_append, not_or] at unknown
      exact unknown
    refine ⟨fun file member => ?_, ?_, added ++ added',
      entriesOf_append_iff.mpr ⟨_, _, made, made', rfl⟩, by rw [List.append_assoc]⟩
    · exact (List.mem_append.mp member).elim (fresh file) fun later => (apart file later).1
    · exact List.nodup_append.mpr ⟨once, once', fun file early other later same =>
        (apart other later).2 (same ▸ early)⟩
  · -- The entries of all sources are cut behind those of the first ones.
    rintro ⟨fresh, once, added, made, rfl⟩
    obtain ⟨first, second, earlier, later, rfl⟩ := entriesOf_append_iff.mp made
    obtain ⟨onceFirst, onceSecond, apart⟩ := List.nodup_append.mp once
    have middle : (old.extended shelves place sources).2.result = .ok ⟨old.entries ++ first⟩ :=
      (extended_eq_ok_iff room proper).mpr
        ⟨fun file member => fresh file (List.mem_append_left _ member), onceFirst, first, earlier,
          rfl⟩
    -- The entries in between are those of the earlier sources, so the later ones stand behind them.
    refine ⟨_, middle, (extended_eq_ok_iff room' (proper.extended room middle)).mpr
      ⟨fun file member => ?_, onceSecond, second, later, by rw [List.append_assoc]⟩⟩
    rw [keysOf_append, keysOf_entriesOf earlier, List.mem_append, not_or]
    exact ⟨fresh file (List.mem_append_right _ member), fun early =>
      apart file early file member rfl⟩

/-- An extended registry resolves what it did before, the new names to the templates of their
sources, and nothing else. -/
theorem resolve_extended_iff (built : (old.extended shelves place sources).2.result = .ok new)
    {name : String} {template : Template} :
    (new.resolve (.text name)).result = .ok template ↔
      (old.resolve (.text name)).result = .ok template ∨
        ∃ source ∈ sources, fileName source.1 = fileName name ∧
          MadeOf place (fileName name) source.2 template := by
  -- The entries of the sources are searched last, and hold no name that is known.
  obtain ⟨fresh, once, added, made, rfl⟩ := (extended_eq_ok_iff room proper).mp built
  rw [resolve_eq_ok_iff, resolve_eq_ok_iff, ← lookup?_entriesOf_iff made once, get?, get?,
    lookup?_append]
  cases known : lookup? (fileName name) old.entries with
  | none => simp
  | some held =>
    -- A file name that has a template already is none of the new ones.
    have unadded : lookup? (fileName name) added = none := by
      rw [lookup?_eq_none_iff, keysOf_entriesOf made]
      intro member
      rw [lookup?_eq_none_iff.mpr (fresh _ member)] at known
      cases known
    simp [unadded]

end

end Registry

namespace Target

open Template TableGenerator

/-- A generator that is made has the registry it was to have, and works with its shelves. -/
theorem create_eq_ok_iff {host : Host} {settings : Settings} {formatter : Option Formatter}
    {extra : Sources} {maker : TableGenerator} :
    (create host settings formatter extra).result = .ok maker ↔
      ∃ registry, (TableGenerator.registry extra).2.result = .ok registry ∧
        maker = ⟨⟨registry,
          ⟨formatter.getD (Formatter.command host settings.formatCommand), defaultEncoding⟩,
          (TableGenerator.registry extra).1⟩, settings⟩ := by
  -- A generator adds nothing to its registry that could fail.
  unfold create
  obtain ⟨shelves, result, log, calls⟩ := TableGenerator.registry extra
  cases result with
  -- Without a registry there is nothing to make a generator with.
  | error cause => exact ⟨(by rintro ⟨⟩), (by rintro ⟨_, ⟨⟩, _⟩)⟩
  | ok registry =>
    constructor
    · intro made
      exact ⟨registry, rfl, (Except.ok.inj made).symm⟩
    · rintro ⟨_, made, rfl⟩
      obtain rfl := Except.ok.inj made
      rfl

/-- The registry of a generator holds the built-in templates in front of all further ones. -/
theorem entries_registry {extra : Sources} {registry : Registry}
    (made : (TableGenerator.registry extra).2.result = .ok registry) :
    ∃ added, registry.entries = builtInRegistry.entries ++ added := by
  -- Further templates extend the built-in registry, which puts them behind its own.
  have compiled := Registry.ofSources_of_compiled foldl_add_builtIn ofEntries_builtIn
  unfold TableGenerator.registry at made
  -- Only the outcome of compiling matters from here on, so the sources are put out of sight.
  generalize Registry.ofSources [[]] ownShelf builtIn = outcome at compiled made
  subst compiled
  cases extra with
  | nil => exact ⟨[], by rw [← Except.ok.inj made, List.append_nil]⟩
  | cons source rest =>
    have extended : (builtInRegistry.extended builtInShelves ownShelf (source :: rest)).2.result =
        .ok registry := made
    obtain ⟨-, -, added, -, rfl⟩ := (Registry.extended_eq_ok_iff (by decide)
      (Registry.proper_of_ofEntries ofEntries_builtIn)).mp extended
    exact ⟨added, rfl⟩

/-- Without further templates the registry holds the built-in ones. -/
theorem registry_nil :
    (TableGenerator.registry []).1 = builtInShelves ∧
      (TableGenerator.registry []).2.result = .ok builtInRegistry := by
  -- The built-in sources are compiled and nothing follows.
  have compiled := Registry.ofSources_of_compiled foldl_add_builtIn ofEntries_builtIn
  unfold TableGenerator.registry
  generalize Registry.ofSources [[]] ownShelf builtIn = outcome at compiled ⊢
  subst compiled
  exact ⟨rfl, rfl⟩

/-- Further templates leave every built-in target as it is, for every subject. -/
theorem generate_builtIn_of_create {host : Host} {settings : Settings}
    {formatter : Option Formatter} {extra : Sources} {maker : TableGenerator}
    (made : (create host settings formatter extra).result = .ok maker) :
    ∃ plain, (create host settings formatter []).result = .ok plain ∧
      ∀ target ∈ defaultTargets, ∀ subject,
        maker.generator.generate (.text target) subject =
          plain.generator.generate (.text target) subject := by
  -- Both generators find the same template, which looks at no shelf.
  obtain ⟨shelves, result⟩ := registry_nil
  obtain ⟨registry, grown, rfl⟩ := create_eq_ok_iff.mp made
  refine ⟨_, create_eq_ok_iff.mpr ⟨builtInRegistry, result, rfl⟩, ?_⟩
  obtain ⟨added, entries⟩ := entries_registry grown
  rw [shelves]
  -- A built-in template is found first, and gives its text whatever stands on the shelf.
  have alike : ∀ {target file nodes}, anyInserts nodes = false →
      builtInRegistry.get? (fileName target) = some ⟨file, nodes, ownShelf⟩ → ∀ subject,
        Generator.generate ⟨registry, ⟨formatter.getD (Formatter.command host
            settings.formatCommand), defaultEncoding⟩, (TableGenerator.registry extra).1⟩
            (.text target) subject =
          Generator.generate ⟨builtInRegistry, ⟨formatter.getD (Formatter.command host
            settings.formatCommand), defaultEncoding⟩, builtInShelves⟩ (.text target) subject := by
    intro target file nodes closed found subject
    refine Generator.generate_congr_registry found ?_
      (fun context => Shelf.text_of_not_inserts closed _ _ context) subject
    rw [Registry.get?, entries, lookup?_append, ← Registry.get?, found, Option.some_or]
  obtain ⟨structFound, selectFound, insertFound, deleteFound⟩ := get?_builtIn
  -- What holds of any target that inserts nothing holds of the four.
  obtain ⟨structClosed, selectClosed, insertClosed, deleteClosed⟩ := not_inserts_builtIn
  simp only [defaultTargets, List.forall_mem_cons]
  exact ⟨alike structClosed structFound, alike selectClosed selectFound,
    alike insertClosed insertFound, alike deleteClosed deleteFound, by simp⟩

end Target

/-- Extending is conservative: it succeeds exactly when nothing is in its way, keeps all that was
there, tells every clash before it begins, goes step by step as at once, and changes no built-in
target. -/
theorem extended_conservative {templates : List (String × Template)} {old : Registry}
    (built : Registry.ofEntries templates = .ok old) {shelves : Shelves} {place : Nat}
    (room : place < shelves.length) (sources more : Sources) :
    ((∃ new, (old.extended shelves place sources).2.result = .ok new) ↔
      (∀ file ∈ keysOf (Registry.filed sources), file ∉ keysOf old.entries) ∧
        (keysOf (Registry.filed sources)).Nodup ∧
          ∀ source ∈ sources, ∃ nodes, Template.compileNodes source.2 = .ok nodes) ∧
    (∀ new, (old.extended shelves place sources).2.result = .ok new →
      keysOf new.entries = keysOf old.entries ++ keysOf (Registry.filed sources) ∧
      ∀ name template, (new.resolve (.text name)).result = .ok template ↔
        (old.resolve (.text name)).result = .ok template ∨
          ∃ source ∈ sources, Template.fileName source.1 = Template.fileName name ∧
            ∃ nodes, Template.compileNodes source.2 = .ok nodes ∧
              template = ⟨Template.fileName name, nodes, place⟩) ∧
    ((∃ file ∈ keysOf (Registry.filed sources), file ∈ keysOf old.entries) →
      ∃ files, old.extended shelves place sources = (shelves, .fail (.duplicate files)) ∧
        IncreasingSetOf files
          ((keysOf (Registry.filed sources)).filter fun file => file ∈ keysOf old.entries)) ∧
    (∀ new, (∃ middle, (old.extended shelves place sources).2.result = .ok middle ∧
      (middle.extended (old.extended shelves place sources).1 place more).2.result = .ok new) ↔
        (old.extended shelves place (sources ++ more)).2.result = .ok new) ∧
    ∀ host settings formatter extra maker,
      (TableGenerator.create host settings formatter extra).result = .ok maker →
        ∃ plain, (TableGenerator.create host settings formatter []).result = .ok plain ∧
          ∀ target ∈ defaultTargets, ∀ subject,
            maker.generator.generate (.text target) subject =
              plain.generator.generate (.text target) subject := by
  -- Success says which entries the extended registry has, and these say what it resolves.
  have proper := Registry.proper_of_ofEntries built
  refine ⟨?succeeds, ?keeps, ?clashes, fun new => Registry.extended_extended_iff room proper,
    fun _ _ _ _ _ made => Target.generate_builtIn_of_create made⟩
  case succeeds =>
    -- That every source compiles is that there are entries for all of them.
    rw [← Registry.exists_entriesOf_iff place]
    constructor
    · rintro ⟨new, extended⟩
      obtain ⟨fresh, once, added, made, -⟩ :=
        (Registry.extended_eq_ok_iff room proper).mp extended
      exact ⟨fresh, once, added, made⟩
    · rintro ⟨fresh, once, added, made⟩
      exact ⟨_, (Registry.extended_eq_ok_iff room proper).mpr ⟨fresh, once, added, made, rfl⟩⟩
  -- New entries stand behind the old ones, so these are found first.
  case keeps =>
    intro new extended
    refine ⟨?_, fun name template => Registry.resolve_extended_iff room proper extended⟩
    obtain ⟨-, -, added, made, rfl⟩ := (Registry.extended_eq_ok_iff room proper).mp extended
    rw [keysOf_append, Registry.keysOf_entriesOf made]
  -- A clash is told by the file names alone, before any source is compiled.
  case clashes =>
    rintro ⟨file, given, known⟩
    exact ⟨_, Registry.extended_of_clash given known shelves place,
      Registry.increasingSetOf_clashes old sources⟩

/-- A registry of one template, which is one text. -/
def headRegistry : Registry := ⟨[("head.tpl", ⟨"head.tpl", [.text "x"], 0⟩)]⟩

/-- The registry grows by a source that makes a template, and a clash is told although the source
that clashes makes none. -/
theorem extended_conservative_head :
    Registry.ofEntries headRegistry.entries = .ok headRegistry ∧
    (∃ new, (headRegistry.extended [[("head.tpl", "x")]] 0 [("tail", "y")]).2.result = .ok new ∧
      keysOf new.entries = ["head.tpl", "tail.tpl"] ∧
      (new.resolve (.text "head")).result = .ok ⟨"head.tpl", [.text "x"], 0⟩ ∧
      (new.resolve (.text "tail.tpl")).result = .ok ⟨"tail.tpl", [.text "y"], 0⟩) ∧
    ∃ files, headRegistry.extended [[("head.tpl", "x")]] 0 [("head", "\x7b%")] =
        ([[("head.tpl", "x")]], .fail (.duplicate files)) ∧
      ∀ file, file ∈ files ↔ file = "head.tpl" := by
  -- The general statement is used twice on the same registry: without a clash and with one.
  have built : Registry.ofEntries headRegistry.entries = .ok headRegistry := by decide +kernel
  have room : 0 < [[("head.tpl", "x")]].length := by decide
  obtain ⟨succeeds, keeps, -⟩ := extended_conservative built room [("tail", "y")] []
  obtain ⟨-, -, clashes, -⟩ := extended_conservative built room [("head", "\x7b%")] []
  obtain ⟨new, extended⟩ := succeeds.mpr ⟨by decide, by decide, by
    simpa using exists_ok_of_isSome (by decide +kernel)⟩
  obtain ⟨keys, resolves⟩ := keeps new extended
  obtain ⟨files, told, set⟩ := clashes ⟨"head.tpl", by decide, by decide⟩
  refine ⟨built, ⟨new, extended, keys.trans (by decide), ?_, ?_⟩, files, told, fun file => ?_⟩
  · -- The old template is still found under its name.
    exact (resolves "head" _).mpr (.inl (by decide +kernel))
  · -- The new one is found with its suffix as well.
    exact (resolves "tail.tpl" _).mpr (.inr ⟨_, List.mem_singleton_self _, by decide,
      [.text "y"], by decide +kernel, by decide +kernel⟩)
  · -- The one file name that clashes is told, although its source is broken.
    have clash : ((keysOf (Registry.filed [("head", "\x7b%")])).filter fun file =>
        file ∈ keysOf headRegistry.entries) = ["head.tpl"] := by decide
    rw [set.members, clash, List.mem_singleton]

end Tablewright
