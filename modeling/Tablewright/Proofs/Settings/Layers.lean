import Tablewright.Proofs.Settings.Mirroring

/-! Held entries are read, put in layers and made into settings as plain ones are. -/

namespace Tablewright

variable {hidden : Nat → Prop} {cells : Cells}

/-- Held entries that show plain ones. -/
abbrev EntriesShow (hidden : Nat → Prop) (cells : Cells) (entries : List (String × Held))
    (plain : Context) : Prop :=
  List.Forall₂ (SameKey (Shows hidden cells)) entries plain

/-- The key that a held value stands for is that of the plain one. -/
theorem mirrors_key (heap : Heap hidden cells) {held : Held} {value : Value}
    (stands : Stands cells held value) :
    Mirrors hidden cells (Held.keeper.key held) (Keeper.plain.key value) fun _ => (· = ·) := by
  -- Of all levels only a leaf can be a key, and a leaf is the same on both sides.
  refine Mirrors.view heap stands fun _ => ?_
  cases held.shape cells with
  | leaf leaf =>
    simp only [Shape.map]
    cases leaf.lookupKey with
    | ok key => exact Mirrors.pure heap rfl
    | error cause => exact Mirrors.throw heap _
  -- Lists and records are refused as keys, for the same reason on both sides.
  | list items => exact Mirrors.throw heap _
  | record entries => exact Mirrors.throw heap _

/-- The entry of two characters is the same. -/
theorem mirrors_charPair (heap : Heap hidden cells) (index : Nat) (cs : List Char) :
    Mirrors hidden cells (Held.keeper.charPair index cs) (Keeper.plain.charPair index cs)
      fun cells' => SameKey (Shows hidden cells') := by
  -- Two characters are a key and a value, and any other number of them is refused on both sides.
  unfold Keeper.charPair
  split
  · refine Mirrors.bind (Mirrors.keepLeaf heap rfl) fun added held value grown shown => ?_
    exact Mirrors.pure grown ⟨rfl, shown⟩
  · exact Mirrors.throw heap _

/-- The entry that an item stands for is that of the plain item. -/
theorem mirrors_pair (heap : Heap hidden cells) (index : Nat) {held : Held} {value : Value}
    (stands : Stands cells held value) :
    Mirrors hidden cells (Held.keeper.pair index held) (Keeper.plain.pair index value)
      fun cells' => SameKey (Shows hidden cells') := by
  -- A pair is a text, a list or a record of two; the cases follow the level that is seen.
  refine Mirrors.view heap stands fun parts => ?_
  cases shape : held.shape cells with
  | leaf leaf =>
    cases leaf with
    | text s => exact mirrors_charPair heap index s.toList
    -- No other leaf has items, and the fault tells its kind.
    | _ => exact Mirrors.throw heap _
  | list items =>
    rw [shape] at parts
    match items with
    | [key, item] =>
      -- The second item is held already, and is not put into a new cell.
      have shown := parts item (by simp [Shape.parts])
      refine Mirrors.bind (mirrors_key heap (parts key (by simp [Shape.parts])).toStands) ?_
      rintro added key' _ grown rfl
      exact Mirrors.pure grown ⟨rfl, shown.append heap.sound grown.sound⟩
    | [] => exact Mirrors.throw heap _
    | [_] => exact Mirrors.throw heap _
    | _ :: _ :: _ :: _ =>
      simp only [Shape.map, List.map_cons, List.length_cons, List.length_map]
      exact Mirrors.throw heap _
  | record entries =>
    match entries with
    | [(key, _), (other, _)] =>
      -- Of a record both keys are taken, and what they lead to is left alone.
      refine Mirrors.bind (Mirrors.keepLeaf heap rfl) fun added held value grown shown => ?_
      exact Mirrors.pure grown ⟨rfl, shown⟩
    | [] => exact Mirrors.throw heap _
    | [_] => exact Mirrors.throw heap _
    | _ :: _ :: _ :: _ =>
      simp only [Shape.map, List.map_cons, List.length_cons, List.length_map]
      exact Mirrors.throw heap _

/-- What each of some items in a row mirrors, all of them mirror. -/
theorem mirrors_mapM {step : Held × Nat → ExceptT ε (StateM Cells) (String × Held)}
    {plain : Value × Nat → ExceptT ε Id (String × Value)} {items : List Held} {values : List Value}
    (heap : Heap hidden cells) (shown : List.Forall₂ (Stands cells) items values) (first : Nat)
    (steps : ∀ added held value index, Heap hidden (cells ++ added) →
      Stands (cells ++ added) held value →
      Mirrors hidden (cells ++ added) (step (held, index)) (plain (value, index))
        fun cells' => SameKey (Shows hidden cells')) :
    Mirrors hidden cells ((items.zipIdx first).mapM step) ((values.zipIdx first).mapM plain)
      (EntriesShow hidden) := by
  -- The induction is on the items; each step goes on behind the cells of the ones before it.
  induction items generalizing cells values first with
  | nil =>
    cases shown
    exact Mirrors.pure heap .nil
  | cons held items ih =>
    cases shown with
    | @cons _ value _ values stands others =>
      rw [List.zipIdx_cons, List.zipIdx_cons, List.mapM_cons, List.mapM_cons]
      have here := steps [] held value first
      rw [List.append_nil] at here
      refine Mirrors.bind (here heap stands) fun added entry entry' grown same => ?_
      have later := others.imp fun _ _ stands => stands.append heap.sound grown.sound
      refine Mirrors.bind (ih grown later (first + 1) fun more held value index => ?_) ?_
      · rw [List.append_assoc]
        exact steps (added ++ more) held value index
      · intro more rest rest' behind shows'
        refine Mirrors.pure behind (.cons ⟨same.1, ?_⟩ shows')
        exact same.2.append grown.sound behind.sound

/-- The entries that items stand for are those of the plain items. -/
theorem mirrors_pairs (heap : Heap hidden cells) {items : List Held} {values : List Value}
    (shown : List.Forall₂ (Stands cells) items values) :
    Mirrors hidden cells (Held.keeper.pairs items) (Keeper.plain.pairs values)
      (EntriesShow hidden) := by
  -- Each item gives its entry, and the entries are assigned one over another on both sides.
  refine Mirrors.bind (mirrors_mapM heap shown 0 fun added held value index grown stands =>
    mirrors_pair grown index stands) fun added entries entries' grown shows' => ?_
  exact Mirrors.pure grown (assignAll_corresponding .nil shows')

/-- The entries of a held value are those of the plain one. -/
theorem mirrors_entries (heap : Heap hidden cells) {held : Held} {value : Value}
    (stands : Stands cells held value) :
    Mirrors hidden cells (Held.keeper.entries held) (Keeper.plain.entries value)
      (EntriesShow hidden) := by
  -- A list is read as pairs and a record as it is; of leaves only the empty text has entries.
  refine Mirrors.view heap stands fun parts => ?_
  cases shape : held.shape cells with
  | leaf leaf =>
    cases leaf with
    | text s =>
      simp only [Shape.map]
      cases s.toList with
      | nil => exact Mirrors.pure heap .nil
      | cons => exact Mirrors.throw heap _
    | _ => exact Mirrors.throw heap _
  | list items =>
    rw [shape] at parts
    refine mirrors_pairs heap (List.forall₂_map_right_iff.mpr (List.forall₂_same.mpr ?_))
    exact fun item member => (parts item member).toStands
  -- The entries of a record are held already, and are shared with it.
  | record entries =>
    rw [shape] at parts
    refine Mirrors.pure heap (List.forall₂_map_right_iff.mpr (List.forall₂_same.mpr ?_))
    exact fun entry member => ⟨rfl, parts entry.2 (List.mem_map_of_mem member)⟩

/-- The entries of a held value, or why it has none, are those of the plain one. -/
theorem mirrors_entriesOf (heap : Heap hidden cells) {held : Held} {value : Value}
    (stands : Stands cells held value) :
    Mirrors hidden cells (entriesOf Held.keeper held) (entriesOf Keeper.plain value)
      (EntriesShow hidden) := by
  -- Only the wording of a fault is added, and on both sides the same.
  obtain ⟨outcome, added, ran, grown, same⟩ := mirrors_entries heap stands
  refine ⟨outcome.mapError .entry, added, ?_, grown, ?_⟩
  · change ((Held.keeper.entries held).run >>= fun result =>
      Pure.pure (result.mapError SettingsFault.entry)).run cells = _
    rw [run_bind_of_run ran]
    rfl
  · -- The same words are put on a fault of either side.
    change SameUpTo _ _ ((Keeper.plain.entries value).run.mapError SettingsFault.entry)
    generalize (Keeper.plain.entries value).run = plain at same
    cases same with
    | error cause => exact .error _
    | ok pair => exact .ok pair

/-- Entries that show plain ones make a record that does. -/
theorem EntriesShow.record {entries : List (String × Held)} {plain : Context}
    (shown : EntriesShow hidden cells entries plain) :
    (Shape.record entries).map (Held.value cells) = .record plain ∧
      ∀ part ∈ (Shape.record entries).parts, Shows hidden cells part (part.value cells) := by
  -- The induction follows the entries, which go by the same keys on both sides.
  induction shown with
  | nil => exact ⟨rfl, by simp [Shape.parts]⟩
  | @cons entry entry' rest rest' first _ ih =>
    obtain ⟨same, parts⟩ := ih
    have others : rest.map (Prod.map id (Held.value cells)) = rest' := Shape.record.inj same
    have here : Prod.map id (Held.value cells) entry = entry' :=
      Prod.ext first.1 first.2.value_eq
    refine ⟨congrArg Shape.record ?_, ?_⟩
    · rw [List.map_cons, here, others]
    · -- The parts of the record are the values of the entries.
      rw [Shape.parts, List.map_cons, List.forall_mem_cons]
      exact ⟨⟨⟨first.2.proper, rfl⟩, first.2.free⟩, parts⟩

/-- Entries that show plain ones still do once cells are put behind the others. -/
theorem EntriesShow.append {entries : List (String × Held)} {plain : Context} {added : Cells}
    (shown : EntriesShow hidden cells entries plain) (sound : Sound cells)
    (grown : Sound (cells ++ added)) : EntriesShow hidden (cells ++ added) entries plain :=
  imp_corresponding shown fun _ _ pair => pair.append sound grown

/-- Held entries that stand for plain ones; all but three of them are in no hidden cell. -/
structure Merged (hidden : Nat → Prop) (cells : Cells) (entries : List (String × Held))
    (plain : Context) : Prop where
  stand : List.Forall₂ (SameKey (Stands cells)) entries plain
  free : ∀ entry ∈ entries, entry.1 ∉ ["targets", "imports", "custom"] → entry.2.Free hidden

section

variable {entries : List (String × Held)} {plain : Context}

/-- Entries under names of their own are in no hidden cell. -/
theorem Merged.unknown (merged : Merged hidden cells entries plain) :
    EntriesShow hidden cells (unknownEntries entries) (unknownEntries plain) := by
  -- The three settings that may be hidden are settings by name.
  have free : ∀ entry ∈ unknownEntries entries, entry.2.Free hidden := by
    intro entry member
    obtain ⟨inside, unknown⟩ := List.mem_filter.mp member
    refine merged.free entry inside fun known => ?_
    simp only [List.mem_cons, List.not_mem_nil, or_false] at known
    rcases known with same | same | same <;> simp [same, settingNames] at unknown
  -- The names are the same on both sides, so the same entries are left out.
  have stand : List.Forall₂ (SameKey (Stands cells)) (unknownEntries entries)
      (unknownEntries plain) :=
    filter_corresponding merged.stand fun name => !settingNames.contains name
  exact ((List.forall₂_and_left _ _).mpr ⟨free, stand⟩).imp fun _ _ both =>
    ⟨both.2.1, both.2.2, both.1⟩

/-- The custom setting is the one that was set, or it is in a new cell. -/
theorem mirrors_customOf (heap : Heap hidden cells) (merged : Merged hidden cells entries plain) :
    Mirrors hidden cells (customOf Held.keeper entries) (customOf Keeper.plain plain)
      fun cells' held value => Stands cells' held value ∧
        ((unknownEntries entries = [] ∧ lookup? "custom" entries = some held) ∨
          Fresh hidden cells.length cells' held) := by
  -- Both sides have a custom setting and unknown entries, or both lack them.
  have unknown := merged.unknown
  have custom := lookup?_corresponding merged.stand "custom"
  unfold customOf
  generalize unknownEntries entries = others at unknown ⊢
  generalize unknownEntries plain = others' at unknown ⊢
  generalize lookup? "custom" entries = set at custom ⊢
  generalize lookup? "custom" plain = set' at custom ⊢
  cases custom with
  -- Unset, it is a new record of the unknown entries, be there any or none.
  | none =>
    obtain ⟨same, parts⟩ := unknown.record
    cases unknown <;>
      exact (Mirrors.keep heap (Shape.node_record _) same parts).imp
        fun added held value grown both => ⟨both.1, .inr both.2⟩
  | some stands =>
    cases unknown with
    | nil => exact Mirrors.pure heap ⟨stands, .inl ⟨rfl, rfl⟩⟩
    | cons first rest =>
      -- What was set is read first, and goes under the entries in one more cell.
      refine Mirrors.bind (mirrors_entriesOf heap stands) fun added below below' grown shown => ?_
      have whole := assignAll_corresponding shown
        (EntriesShow.append (.cons first rest) heap.sound grown.sound)
      obtain ⟨same, parts⟩ := EntriesShow.record whole
      refine (Mirrors.keep grown (Shape.node_record _) same parts).imp ?_
      intro more held value behind both
      refine ⟨both.1, .inr (both.2.mono ?_)⟩
      rw [List.length_append]
      omega

/-- A setting that is a list is copied into a new cell. -/
theorem mirrors_listSetting (heap : Heap hidden cells) (name : String) {held : Held} {value : Value}
    (stands : Stands cells held value) :
    Mirrors hidden cells (listSetting Held.keeper name held) (listSetting Keeper.plain name value)
      fun cells' held value =>
        Stands cells' held value ∧ Fresh hidden cells.length cells' held := by
  -- Anything but a list is refused for its kind, which is the same on both sides.
  refine Mirrors.view heap stands fun parts => ?_
  cases shape : held.shape cells with
  | leaf leaf => exact Mirrors.throw heap _
  | list items =>
    rw [shape] at parts
    exact Mirrors.keep heap (Shape.node_list items) rfl parts
  | record entries => exact Mirrors.throw heap _

/-- The settings that have a default of their own. -/
def defaultNames : List String := ["package_name", "targets", "imports", "gofmt_command"]

/-- An entry that is there stands for that of the plain entries, whatever the defaults are. -/
theorem Merged.setting (merged : Merged hidden cells entries plain) {name : String}
    (there : (lookup? name entries).isSome) (default : Held) (plainDefault : Value) :
    Stands cells ((lookup? name entries).getD default) ((lookup? name plain).getD plainDefault) ∧
      (name ∉ ["targets", "imports", "custom"] →
        ((lookup? name entries).getD default).Free hidden) := by
  -- The plain entries have one under the name as well, so no default is asked for.
  have pair := lookup?_corresponding merged.stand name
  obtain ⟨held, found⟩ := Option.isSome_iff_exists.mp there
  rw [found] at pair ⊢
  generalize lookup? name plain = other at pair ⊢
  cases pair with
  | some stands => exact ⟨stands, merged.free _ (mem_of_lookup? found)⟩

/-- Settings made of held entries: lists in cells of their own, and a custom setting in one of its
own unless it is the very one that was set. -/
structure Made (hidden : Nat → Prop) (before : Cells) (entries : List (String × Held))
    (cells : Cells) (settings : SettingsOf Held) (plain : Settings) : Prop where
  value_eq : settings.map (Held.value cells) = plain
  package : settings.packageName.Proper before ∧ settings.packageName.Free hidden
  format : settings.formatCommand.Proper before ∧ settings.formatCommand.Free hidden
  custom : (unknownEntries entries = [] ∧ lookup? "custom" entries = some settings.custom) ∨
    ∃ address, settings.custom = .cell address ∧ before.length ≤ address ∧ Unheld cells address
  targets : ∃ address, settings.targets = .cell address ∧ before.length ≤ address ∧
    Unheld cells address
  imports : ∃ address, settings.imports = .cell address ∧ before.length ≤ address ∧
    Unheld cells address
  apart : settings.custom ≠ settings.targets ∧ settings.custom ≠ settings.imports ∧
    settings.targets ≠ settings.imports
  proper : ∀ entry ∈ settings.entries, entry.2.Proper cells

/-- Settings are made of held entries as of plain ones. -/
theorem mirrors_settingsOf (heap : Heap hidden cells) (merged : Merged hidden cells entries plain)
    (complete : ∀ name ∈ defaultNames, (lookup? name entries).isSome) (defaults : SettingsOf Held)
    (plainDefaults : Settings) :
    Mirrors hidden cells (settingsOf Held.keeper defaults entries)
      (settingsOf Keeper.plain plainDefaults plain) (Made hidden cells entries) := by
  -- The cells grow in three steps: the custom setting, the targets, the imports.
  simp only [defaultNames, List.forall_mem_cons] at complete
  obtain ⟨packageThere, targetsThere, importsThere, formatThere, -⟩ := complete
  obtain ⟨package, packageFree⟩ := merged.setting packageThere defaults.packageName
    plainDefaults.packageName
  obtain ⟨format, formatFree⟩ := merged.setting formatThere defaults.formatCommand
    plainDefaults.formatCommand
  obtain ⟨targets, -⟩ := merged.setting targetsThere defaults.targets plainDefaults.targets
  obtain ⟨imports, -⟩ := merged.setting importsThere defaults.imports plainDefaults.imports
  refine Mirrors.bind (mirrors_customOf heap merged) ?_
  rintro added custom plainCustom grown ⟨customStands, customNew⟩
  -- A custom setting in a cell of its own is hidden from what follows, and so are both lists.
  have own : ∃ hides : Nat → Prop, Heap hides (cells ++ added) ∧
      (∀ address, hidden address → hides address) ∧
      ((unknownEntries entries = [] ∧ lookup? "custom" entries = some custom) ∨
        ∃ address, custom = .cell address ∧ cells.length ≤ address ∧ hides address) := by
    rcases customNew with shared | ⟨address, same, new, hides⟩
    · exact ⟨hidden, grown, fun _ => id, .inl shared⟩
    · exact ⟨_, hides, fun _ => .inl, .inr ⟨address, same, new, .inr rfl⟩⟩
  obtain ⟨hides, customHeap, within, customOwn⟩ := own
  have targets' := targets.append heap.sound grown.sound
  have imports' := imports.append heap.sound grown.sound
  refine Mirrors.mono (Mirrors.bind (mirrors_listSetting customHeap "targets" targets') ?_) within
  rintro more _ plainTargets grown' ⟨targetsStand, target, rfl, targetNew, targetHeap⟩
  have imports'' := imports'.append grown.sound grown'.sound
  refine Mirrors.mono (Mirrors.bind (mirrors_listSetting targetHeap "imports" imports'') ?_)
    fun _ => .inl
  rintro last _ plainImports grown'' ⟨importsStand, import', rfl, importNew, importHeap⟩
  refine Mirrors.pure grown'' ?_
  -- Everything that stands for its value now still does behind the last cells.
  have lasting : ∀ {held : Held} {value : Value}, Stands cells held value →
      Stands (cells ++ added ++ more ++ last) held value := fun stands =>
    ((stands.append heap.sound grown.sound).append grown.sound grown'.sound).append grown'.sound
      grown''.sound
  -- Each setting shows its value behind all cells, from where it was made on.
  have packageLast := lasting package
  have formatLast := lasting format
  have customLast := (customStands.append grown.sound grown'.sound).append grown'.sound
    grown''.sound
  have targetsLast := targetsStand.append grown'.sound grown''.sound
  simp only [List.length_append] at targetNew importNew
  have targetLow : target < (cells ++ added ++ more).length := targetsStand.proper
  simp only [List.length_append] at targetLow
  -- The addresses of the three stages lie one behind another, which tells them apart.
  have customLow : ∀ address, custom = .cell address → address < cells.length + added.length := by
    rintro address rfl
    have low : address < (cells ++ added).length := customStands.proper
    rwa [List.length_append] at low
  -- What holds of the settings is now told one by one.
  exact {
    value_eq := by
      simp only [SettingsOf.map, SettingsOf.updated, packageLast.value_eq, targetsLast.value_eq,
        importsStand.value_eq, formatLast.value_eq, customLast.value_eq]
    package := ⟨package.proper, packageFree (by decide)⟩
    format := ⟨format.proper, formatFree (by decide)⟩
    custom := customOwn.imp_right fun ⟨address, same, new, hides'⟩ =>
      ⟨address, same, new, importHeap.unheld address (.inl (.inl hides'))⟩
    targets := ⟨target, rfl, by omega, importHeap.unheld target (.inl (.inr rfl))⟩
    imports := ⟨import', rfl, by omega, importHeap.unheld import' (.inr rfl)⟩
    apart := by
      refine ⟨fun same => ?_, fun same => ?_, fun same => ?_⟩
      · have low := customLow target same
        omega
      · have low := customLow import' same
        omega
      · cases same
        omega
    proper := by
      simp only [SettingsOf.entries, List.forall_mem_cons]
      exact ⟨packageLast.proper, targetsLast.proper, importsStand.proper, formatLast.proper,
        customLast.proper, by simp⟩ }

end

end Tablewright
