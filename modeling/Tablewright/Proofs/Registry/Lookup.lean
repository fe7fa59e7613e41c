import Tablewright.Proofs.Registry.Appending

/-! Which fault stops sources, and what is found in registries, however they were had. -/

namespace Tablewright.Registry

open Template

/-- A source is stopped by a fault: its file name is taken already, or else it makes no template. -/
def StoppedBy (known : List String) (source : String × String) (cause : RegistryFault) : Prop :=
  fileName source.1 ∈ known ∧ cause = .duplicate [fileName source.1] ∨
    fileName source.1 ∉ known ∧ ∃ fault, compileNodes source.2 = .error fault ∧
      cause = .uncompilable (fileName source.1) fault

section

variable {place : Nat} {shelves : Shelves} (room : place < shelves.length) {sources : Sources}
  {done : List (String × Template)} {cause : RegistryFault}
include room

/-- A source is refused for the fault that stops it behind the file names that are taken. -/
theorem outcome_add_eq_error_iff {source : String × String} :
    (Compiling.add place ⟨shelves, .ok done⟩ source).outcome = .error cause ↔
      StoppedBy (keysOf done) source cause := by
  unfold StoppedBy
  -- A file name that is known stops the step before its source is looked at.
  by_cases known : fileName source.1 ∈ keysOf done
  · simp [Compiling.add, known, eq_comm]
  · have fresh : (keysOf done).contains (fileName source.1) = false := by simpa using known
    simp only [Compiling.add, fresh, compileTemplate_put room, known, not_false_eq_true, true_and,
      false_and, false_or, Bool.false_eq_true, if_false]
    cases compileNodes source.2 <;> simp [Except.map, Except.mapError, eq_comm]

/-- A step leaves as many shelves as there were. -/
theorem room_add (state : Except RegistryFault (List (String × Template)))
    (source : String × String) :
    place < (Compiling.add place ⟨shelves, state⟩ source).shelves.length := by
  obtain ⟨length, -⟩ := foldl_add_frame place [source] ⟨shelves, state⟩
  exact Nat.lt_of_lt_of_eq room length.symm

/-- A run over sources fails with the fault of the first one that is stopped behind those before. -/
theorem outcome_foldl_add_eq_error_iff :
    (sources.foldl (Compiling.add place) ⟨shelves, .ok done⟩).outcome = .error cause ↔
      ∃ before source after compiled, sources = before ++ source :: after ∧
        (before.foldl (Compiling.add place) ⟨shelves, .ok done⟩).outcome = .ok compiled ∧
          StoppedBy (keysOf compiled) source cause := by
  -- A run stops at the first source that is stopped, with all before it added.
  constructor
  · intro failed
    -- By induction over the sources: either the first one is stopped, or one behind it is.
    induction sources generalizing shelves done with
    | nil => cases failed
    | cons source rest ih =>
      rw [List.foldl_cons] at failed
      have room' := room_add room (.ok done) source
      cases step : Compiling.add place ⟨shelves, .ok done⟩ source with | mk shelves' outcome =>
      rw [step] at failed room'
      cases outcome with
      -- The first source is stopped, and the fault is handed on by all others.
      | error first =>
        rw [foldl_add_of_error] at failed
        obtain rfl : first = cause := Except.error.inj failed
        exact ⟨[], source, rest, done, rfl, rfl,
          (outcome_add_eq_error_iff room).mp (by rw [step])⟩
      -- The first source joins those that are added before the one that is stopped.
      | ok done' =>
        obtain ⟨before, stopped, after, compiled, rfl, ran, fault⟩ := ih room' failed
        exact ⟨source :: before, stopped, after, compiled, rfl, by rw [List.foldl_cons, step, ran],
          fault⟩
  · -- The run gets as far as the source that is stopped, and hands its fault on.
    rintro ⟨before, source, after, compiled, rfl, ran, fault⟩
    rw [List.foldl_append, List.foldl_cons]
    obtain ⟨length, -⟩ := foldl_add_frame place before ⟨shelves, .ok done⟩
    cases run : before.foldl (Compiling.add place) ⟨shelves, .ok done⟩ with | mk shelves' outcome =>
    rw [run] at ran length
    cases ran
    have stops := (outcome_add_eq_error_iff (Nat.lt_of_lt_of_eq room length.symm)).mpr fault
    cases step : Compiling.add place ⟨shelves', .ok compiled⟩ source with | mk shelves'' outcome =>
    rw [step] at stops
    cases stops
    rw [foldl_add_of_error]

/-- Sources make no registry for the fault of the first one that is stopped, behind sources that
would make one. -/
theorem ofSources_eq_error_iff :
    (ofSources shelves place sources).2.result = .error cause ↔
      ∃ before source after, sources = before ++ source :: after ∧
        (keysOf (filed before)).Nodup ∧
        (∀ earlier ∈ before, ∃ nodes, compileNodes earlier.2 = .ok nodes) ∧
        StoppedBy (keysOf (filed before)) source cause := by
  -- The check of names never refuses what was compiled, so only compiling fails.
  have compiling : (ofSources shelves place sources).2.result = .error cause ↔
      (sources.foldl (Compiling.add place) ⟨shelves, .ok []⟩).outcome = .error cause := by
    rw [result_ofSources]
    cases ran : (sources.foldl (Compiling.add place) ⟨shelves, .ok []⟩).outcome with
    | error first => simp [Bind.bind, Except.bind]
    | ok compiled =>
      obtain ⟨once, made⟩ := (outcome_compiled_eq_ok_iff room).mp ran
      have taken : ofEntries compiled = .ok ⟨compiled⟩ :=
        ofEntries_of_proper (proper_entriesOf made once)
      simp [taken, Bind.bind, Except.bind]
  -- The templates made before the fault are entries of the sources before it.
  rw [compiling, outcome_foldl_add_eq_error_iff room]
  constructor
  · -- What was compiled goes by the file names of the sources before the fault.
    rintro ⟨before, source, after, compiled, split, ran, fault⟩
    obtain ⟨once, made⟩ := (outcome_compiled_eq_ok_iff room).mp ran
    rw [keysOf_entriesOf made] at fault
    exact ⟨before, source, after, split, once, (exists_entriesOf_iff place before).mp ⟨_, made⟩,
      fault⟩
  · -- Sources that compile under different names are added as far as the fault.
    rintro ⟨before, source, after, split, once, each, fault⟩
    obtain ⟨entries, made⟩ := (exists_entriesOf_iff place before).mpr each
    exact ⟨before, source, after, entries, split,
      (outcome_compiled_eq_ok_iff room).mpr ⟨once, made⟩, by rwa [keysOf_entriesOf made]⟩

end

/-- A registry that can be had: of templates that were named, of sources, or of another registry
that can be had by extending it. -/
inductive Obtainable : Registry → Prop where
  | ofEntries {templates : List (String × Template)} {registry : Registry}
      (built : Registry.ofEntries templates = .ok registry) : Obtainable registry
  | ofSources {shelves : Shelves} {place : Nat} {sources : Sources} {registry : Registry}
      (room : place < shelves.length)
      (built : (Registry.ofSources shelves place sources).2.result = .ok registry) :
      Obtainable registry
  | extended {shelves : Shelves} {place : Nat} {sources : Sources} {old new : Registry}
      (had : Obtainable old) (room : place < shelves.length)
      (built : (old.extended shelves place sources).2.result = .ok new) : Obtainable new

/-- However a registry was had, its entries go by file names, each of them once. -/
theorem Obtainable.proper {registry : Registry} (had : Obtainable registry) : registry.Proper := by
  -- The induction follows the ways to come by a registry, each of which keeps its entries proper.
  induction had with
  | ofEntries built => exact proper_of_ofEntries built
  | ofSources room built =>
    obtain ⟨once, made⟩ := (ofSources_eq_ok_iff room).mp built
    exact proper_entriesOf made once
  | extended _ room built ih => exact ih.extended room built

section

variable {registry : Registry}

/-- The names of a registry are the file names of its entries. -/
theorem mem_names {file : String} : file ∈ registry.names ↔ file ∈ keysOf registry.entries :=
  Text.mem_sorted

/-- A text is looked for under itself. -/
theorem find?_text (registry : Registry) (file : String) :
    registry.find? (.text file) = .ok (registry.get? file) := rfl

/-- Under a file name there is a template exactly when it is one of the names. -/
theorem isSome_get? {file : String} : (registry.get? file).isSome ↔ file ∈ registry.names := by
  rw [mem_names, ← not_iff_not, ← lookup?_eq_none_iff, Bool.not_eq_true, Option.isSome_eq_false_iff,
    Option.isNone_iff_eq_none, get?]

/-- Nothing but the names of a registry is found in it. -/
theorem find?_eq_true_iff {value : Value} :
    (registry.find? value).map Option.isSome = .ok true ↔
      ∃ file ∈ registry.names, value = .text file := by
  -- The search asks for entries under the value, and they go by texts alone.
  constructor
  · intro found
    -- Whatever is no text is either refused as a key or found nowhere.
    cases key : value.lookupKey with
    | error fault =>
      simp [find?, key, Bind.bind, Except.bind, Except.map] at found
    | ok _ =>
      cases value with
      | text file =>
        rw [find?_text] at found
        exact ⟨file, isSome_get?.mp (Except.ok.inj found), rfl⟩
      | _ =>
        simp [find?, key, Bind.bind, Except.bind, Pure.pure, Except.pure, Except.map] at found
  · rintro ⟨file, named, rfl⟩
    rw [find?_text]
    exact congrArg Except.ok (isSome_get?.mpr named)

/-- A name whose file name is none of the names is not resolved, and the fault tells it as it is. -/
theorem resolve_of_not_mem_names {name : String} (absent : fileName name ∉ registry.names) :
    (registry.resolve (.text name)).result = .error (.notFound name) := by
  rw [mem_names, ← lookup?_eq_none_iff] at absent
  rw [resolve_of_get?_eq_none absent]

/-- Where keys differ, a name is resolved to the entry that goes by its file name. -/
theorem resolve_eq_ok_iff_mem (once : (keysOf registry.entries).Nodup) {name : String}
    {template : Template} :
    (registry.resolve (.text name)).result = .ok template ↔
      (fileName name, template) ∈ registry.entries := by
  rw [resolve_eq_ok_iff, get?, lookup?_eq_some_iff once]

/-- A name among the names is resolved. -/
theorem exists_resolve_of_mem_names {name : String} (named : fileName name ∈ registry.names) :
    ∃ template, (registry.resolve (.text name)).result = .ok template := by
  obtain ⟨template, found⟩ := Option.isSome_iff_exists.mp (isSome_get?.mpr named)
  exact ⟨template, resolve_eq_ok_iff.mpr found⟩

/-- With or without the suffix a name is resolved to one template, or both fail as they are. -/
theorem resolve_append_suffix {name : String} (bare : ¬ ∃ stem, name = stem ++ fileSuffix) :
    (∃ template, (registry.resolve (.text name)).result = .ok template ∧
      (registry.resolve (.text (name ++ fileSuffix))).result = .ok template) ∨
    (registry.resolve (.text name)).result = .error (.notFound name) ∧
      (registry.resolve (.text (name ++ fileSuffix))).result =
        .error (.notFound (name ++ fileSuffix)) := by
  -- Both names have one file name, so one search decides.
  have file := fileName_of_bare bare
  have file' := fileName_append_suffix name
  by_cases named : fileName name ∈ registry.names
  · obtain ⟨template, found⟩ := exists_resolve_of_mem_names named
    refine .inl ⟨template, found, ?_⟩
    rw [resolve_eq_ok_iff] at found ⊢
    rw [file', ← file, found]
  · -- Neither name leads anywhere.
    exact .inr ⟨resolve_of_not_mem_names named,
      resolve_of_not_mem_names (by rwa [file', ← file])⟩

end

/-- Sources make a registry exactly when their file names differ and all of them compile, and else
the first one stopped tells why; and whatever registry can be had holds each of its templates under
one file name, by which alone it is found. -/
theorem sources_make_and_names_resolve {shelves : Shelves} {place : Nat}
    (room : place < shelves.length) (sources : Sources) {registry : Registry}
    (had : Obtainable registry) :
    ((∃ made, (ofSources shelves place sources).2.result = .ok made) ↔
      (keysOf (filed sources)).Nodup ∧
        ∀ source ∈ sources, ∃ nodes, compileNodes source.2 = .ok nodes) ∧
    (∀ cause, (ofSources shelves place sources).2.result = .error cause ↔
      ∃ before source after, sources = before ++ source :: after ∧
        (keysOf (filed before)).Nodup ∧
        (∀ earlier ∈ before, ∃ nodes, compileNodes earlier.2 = .ok nodes) ∧
        (fileName source.1 ∈ keysOf (filed before) ∧ cause = .duplicate [fileName source.1] ∨
          fileName source.1 ∉ keysOf (filed before) ∧
            ∃ fault, compileNodes source.2 = .error fault ∧
              cause = .uncompilable (fileName source.1) fault)) ∧
    (∀ file ∈ keysOf registry.entries, ∃ stem, file = stem ++ ".tpl") ∧
    (keysOf registry.entries).Nodup ∧
    registry.names.Pairwise (· < ·) ∧ registry.names.Perm (keysOf registry.entries) ∧
    registry.entries.length = registry.names.length ∧
    (∀ value, (registry.find? value).map Option.isSome = .ok true ↔
      ∃ file ∈ registry.names, value = .text file) ∧
    (∀ name, (¬ ∃ stem, name = stem ++ ".tpl") → registry.find? (.text name) = .ok none) ∧
    (∀ name,
      (fileName name ∈ registry.names → ∃ template, (fileName name, template) ∈ registry.entries ∧
        (registry.resolve (.text name)).result = .ok template) ∧
      (fileName name ∉ registry.names →
        (registry.resolve (.text name)).result = .error (.notFound name))) ∧
    ∀ name, (¬ ∃ stem, name = stem ++ ".tpl") →
      (∃ template, (registry.resolve (.text name)).result = .ok template ∧
        (registry.resolve (.text (name ++ ".tpl"))).result = .ok template) ∨
      (registry.resolve (.text name)).result = .error (.notFound name) ∧
        (registry.resolve (.text (name ++ ".tpl"))).result =
          .error (.notFound (name ++ ".tpl")) := by
  -- All laws of lookup come from the entries, which go by file names and each by its own.
  have proper := had.proper
  have suffixed : ∀ file ∈ keysOf registry.entries, ∃ stem, file = stem ++ ".tpl" := by
    intro file member
    rw [← proper.filed file member]
    exact exists_stem_fileName file
  have perm : registry.names.Perm (keysOf registry.entries) := Text.perm_sorted _
  refine ⟨?succeeds, fun cause => ofSources_eq_error_iff room, suffixed, proper.once,
    Text.pairwise_sorted proper.once, perm, ?counted, fun value => find?_eq_true_iff, ?bare,
    fun name => ⟨fun named => ?found, resolve_of_not_mem_names⟩, fun name => resolve_append_suffix⟩
  -- Sources compile one by one exactly when there are entries for all of them.
  case succeeds =>
    rw [← exists_entriesOf_iff place]
    constructor
    · rintro ⟨made, built⟩
      obtain ⟨once, entries⟩ := (ofSources_eq_ok_iff room).mp built
      exact ⟨once, _, entries⟩
    · rintro ⟨once, entries, made⟩
      exact ⟨⟨entries⟩, (ofSources_eq_ok_iff room).mpr ⟨once, made⟩⟩
  -- Sorting keeps the number of names.
  case counted =>
    rw [perm.length_eq, keysOf, List.length_map]
  -- A name without the suffix is the file name of no entry.
  case bare =>
    intro name bare
    rw [find?_text, get?, lookup?_eq_none_iff.mpr fun member => bare (suffixed name member)]
  case found =>
    obtain ⟨template, resolved⟩ := exists_resolve_of_mem_names named
    exact ⟨template, (resolve_eq_ok_iff_mem proper.once).mp resolved, resolved⟩

/-- A registry that begins behind its first name in order: it was made of one template and then
extended by a source. -/
def tailFirst : Registry :=
  ⟨[("tail.tpl", ⟨"head.tpl", [.text "x"], 0⟩), ("head.tpl", ⟨"head.tpl", [.text "y"], 0⟩)]⟩

/-- A file name that comes again is told although its source makes no template, and a registry that
was extended finds its templates under their names in order. -/
theorem sources_make_and_names_resolve_tail :
    Obtainable tailFirst ∧
    (ofSources [[]] 0 [("a", "x"), ("a.tpl", "\x7b%")]).2.result = .error (.duplicate ["a.tpl"]) ∧
    tailFirst.names.Perm ["tail.tpl", "head.tpl"] ∧
    (tailFirst.resolve (.text "head")).result = .ok ⟨"head.tpl", [.text "y"], 0⟩ ∧
    (tailFirst.resolve (.text "neck")).result = .error (.notFound "neck") := by
  -- The registry is obtained step by step, and its laws are then read off the general statement.
  have base : ofEntries [("tail", ⟨"head.tpl", [.text "x"], 0⟩)] =
      .ok ⟨[("tail.tpl", ⟨"head.tpl", [.text "x"], 0⟩)]⟩ := by decide +kernel
  have room : 0 < ([[]] : Shelves).length := by decide
  have grown : (Registry.extended ⟨[("tail.tpl", ⟨"head.tpl", [.text "x"], 0⟩)]⟩ [[]] 0
      [("head", "y")]).2.result = .ok tailFirst := by decide +kernel
  have had : Obtainable tailFirst := .extended (.ofEntries base) room grown
  have compiles : compileNodes "x" = .ok [.text "x"] := by decide +kernel
  obtain ⟨-, stopped, -, -, -, perm, -, -, -, resolves, -⟩ :=
    sources_make_and_names_resolve room [("a", "x"), ("a.tpl", "\x7b%")] had
  obtain ⟨_, held, resolved⟩ := (resolves "head").1 (by decide +kernel)
  have second : fileName "head" = "head.tpl" := by decide
  refine ⟨had, (stopped _).mpr ?_, perm, ?_, (resolves "neck").2 (by decide +kernel)⟩
  · -- The second source is stopped by its file name, which is that of the first one.
    exact ⟨[("a", "x")], ("a.tpl", "\x7b%"), [], rfl, by decide, by simp [compiles],
      .inl ⟨by decide, by decide⟩⟩
  · -- The template found is the one that came in by extending.
    obtain rfl : _ = (⟨"head.tpl", [.text "y"], 0⟩ : Template) := by
      simpa [second, tailFirst] using held
    exact resolved

end Tablewright.Registry
