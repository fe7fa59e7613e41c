import Mathlib.Data.List.Pairwise
import Tablewright.Proofs.Settings.Layers
import Tablewright.Proofs.Settings.Precedence
import Tablewright.Proofs.Settings.Steps

/-! Settings loaded in a session are those that plain values give, in lists of their own. -/

namespace Tablewright

/-- What is set on the spot is a new value, or it is there. -/
def Overrides.Proper (cells : Cells) : Overrides → Prop
  | .given _ => True
  | .held whole => whole.Proper cells

namespace Session

/-- The plain value of what is set on the spot. -/
def given (session : Session) : Overrides → Value
  | .given value => value
  | .held held => session.plain held

/-! ## What is set on the spot, and the defaults -/

section

variable {session : Session} (good : Good session)
include good

/-- What is set on the spot stands for its plain value. -/
theorem run_heldOverrides {overrides : Overrides} (proper : overrides.Proper session.cells) :
    ∃ held added, (heldOverrides overrides).run.run session =
        (.ok held, { session with cells := session.cells ++ added }) ∧
      Island session.cells.length added ∧
      Stands (session.cells ++ added) held (session.given overrides) := by
  -- A new value is put behind all cells, and a held one stays where it is.
  cases overrides with
  | given value =>
    obtain ⟨held, added, ran, reads⟩ := Held.run_ofValue value session.cells good.sound
    exact ⟨held, added, run_onCells ran, reads.island, reads.placed.proper, reads.value_eq⟩
  | held held =>
    exact ⟨held, [], by rw [List.append_nil]; rfl, island_nil _, by rwa [List.append_nil],
      by rw [List.append_nil]; rfl⟩

omit good in
/-- The default lists are put behind all other cells. -/
theorem run_defaultEntries (cells : Cells) :
    (Held.ofEntries defaultEntries).run cells =
      (defaultsAt cells.length (cells.length + 1), cells ++ [targetsShape, .list []]) := by
  -- The list of targets takes the next address and the list of imports the one behind it.
  have placed : (Held.ofEntries defaultEntries).run cells =
      (defaultsAt cells.length (cells ++ [targetsShape]).length,
        cells ++ [targetsShape] ++ [.list []]) := rfl
  rw [placed, List.length_append, List.append_assoc]
  rfl

omit good in
/-- The default lists hold no cells. -/
theorem cell_notMem_defaults (address : Nat) : Unheld [targetsShape, .list []] address := by
  -- One list holds texts, and the other holds nothing.
  intro shape member
  simp only [List.mem_cons, List.not_mem_nil, or_false] at member
  rcases member with rfl | rfl <;> simp [targetsShape, Shape.parts]

omit good in
/-- The default lists hold nothing but leaves. -/
theorem island_defaults (count : Nat) : Island count [targetsShape, .list []] := by
  -- Neither list holds a cell, so the two cells are apart from all others.
  refine ⟨⟨?_, ?_, ?_⟩, ?_⟩
  · simp [targetsShape, Shape.node_list]
  · -- The texts among the targets are the only parts there are.
    intro shape member value held
    simp only [List.mem_cons, List.not_mem_nil, or_false] at member
    rcases member with rfl | rfl
    · obtain ⟨text, -, same⟩ := List.mem_map.mp held
      cases same
      rfl
    · cases held
  · intro index shape found part held
    exact absurd held (cell_notMem_defaults part shape (List.mem_of_getElem? found))
  · intro shape member part held
    exact absurd held (cell_notMem_defaults part shape member)

/-- A new cell that no cell holds is private as long as it is given no name. -/
theorem Good.private_new {session' : Session} (things : session'.things = session.things)
    {address : Nat} (new : session.cells.length ≤ address)
    (alone : Unheld session'.cells address) : session'.Private address := by
  -- Names lead to cells that were there before, so no name leads to a new one.
  refine ⟨alone, fun name thing found root => ?_⟩
  rw [things] at found
  have low : address < session.cells.length := good.proper name thing found _ root
  omega

/-- Default lists behind all other cells are out of reach. -/
theorem Good.pristine_new {session' : Session} (things : session'.things = session.things)
    (cells : session'.cells = session.cells ++ [targetsShape, .list []]) :
    session'.Pristine (defaultsAt session.cells.length (session.cells.length + 1))
      session.cells.length (session.cells.length + 1) := by
  -- All addresses from the first new one on are private, those of the two lists among them.
  have hidden : ∀ address, session.cells.length ≤ address → session'.Private address := by
    intro address new
    refine good.private_new things new ?_
    rw [cells]
    exact good.sound.unheld_new new (cell_notMem_defaults address)
  exact ⟨rfl, by simp [cells], by simp [cells], hidden _ (Nat.le_refl _), hidden _ (Nat.le_succ _)⟩

/-- The defaults of a manager are out of reach, whether they are new or not. -/
theorem run_defaultsOf (manager : Manager) :
    ∃ targets imports session', (defaultsOf manager).run.run session =
        (.ok (defaultsAt targets imports), session') ∧
      Grown session.cells session'.cells ∧ session'.things = session.things ∧
      session'.files = session.files ∧ Moved session session' none ∧
      session'.Pristine (defaultsAt targets imports) targets imports := by
  -- Defaults that were made before have stayed out of reach, and new ones are given to nothing.
  unfold defaultsOf
  rw [run_bind_ok run_get]
  split
  · rename_i other defaults found
    obtain ⟨targets, imports, pristine⟩ := good.defaults _ (List.mem_of_find?_eq_some found)
    obtain rfl : defaults = defaultsAt targets imports := pristine.entries_eq
    exact ⟨targets, imports, session, rfl, .refl good.sound, rfl, rfl, Moved.refl good none,
      pristine⟩
  · -- New defaults are put behind all cells, and the manager is remembered with them.
    have grown := (island_defaults session.cells.length).grown good.sound
    rw [run_bind_ok (run_onCells (run_defaultEntries session.cells))]
    refine ⟨session.cells.length, session.cells.length + 1, _, rfl, grown, rfl, rfl, ?_,
      good.pristine_new rfl rfl⟩
    refine { Moved.grow grown none with managers := fun entry member => ?_ }
    rcases List.mem_cons.mp member with rfl | old
    · exact .inr ⟨_, _, good.pristine_new rfl rfl⟩
    · exact .inl old

end

/-! ## Layers -/

/-- Cells that no layer gives away: those that no cell holds, and the custom setting of a file. -/
def Reserved (cells : Cells) (fileEntries : List (String × Held)) (address : Nat) : Prop :=
  (address < cells.length ∧ Unheld cells address) ∨ ("custom", .cell address) ∈ fileEntries

section

variable {cells added : Cells} {fileEntries : List (String × Held)}

/-- What a file says is put into new cells, which hold no reserved one. -/
theorem heap_reserved (sound : Sound cells) (island : Island cells.length added)
    (row : Row cells.length added (fileEntries.map (·.2))) :
    Heap (Reserved cells fileEntries) (cells ++ added) := by
  refine ⟨sound.append island.toBehind, ?_, ?_⟩
  · -- A reserved cell is an old one that nothing held, or that of the custom setting of the file.
    rintro address (⟨there, -⟩ | custom)
    · rw [List.length_append]
      omega
    · exact (row.placed _ (List.mem_map_of_mem custom)).proper
  · rintro address (⟨there, alone⟩ | custom)
    · exact island.unheld_append there alone
    · obtain ⟨new, -, alone⟩ := row.placed _ (List.mem_map_of_mem custom)
      exact sound.unheld_new new alone

/-- All that a file says but its custom setting is in no reserved cell. -/
theorem free_of_row (row : Row cells.length added (fileEntries.map (·.2))) :
    ∀ entry ∈ fileEntries, entry.1 ≠ "custom" → entry.2.Free (Reserved cells fileEntries) := by
  -- Whatever cell an entry of the file is in, it is a new one and its own.
  rintro ⟨name, held⟩ member other address rfl (⟨there, -⟩ | custom)
  · -- The cells of a file are new, and those that are old cannot be among them.
    obtain ⟨new, -, -⟩ := row.placed _ (List.mem_map_of_mem member)
    omega
  · -- Entries of two names are in two cells.
    have apart := List.pairwise_map.mp row.apart
    have : Std.Symm fun entry entry' : String × Held => entry.2.Apart entry'.2 :=
      ⟨fun _ _ => Held.Apart.symm⟩
    exact apart.forall member custom (fun same => other (by cases same; rfl)) address rfl rfl

/-- What a file says stands for its plain value. -/
theorem stand_of_row {written : Context} (row : Row cells.length added (fileEntries.map (·.2)))
    (same : fileEntries.map (Prod.map id (Held.value (cells ++ added))) = written) :
    List.Forall₂ (SameKey (Stands (cells ++ added))) fileEntries written := by
  -- Each value of the file is placed among the new cells, and its plain value is what it shows.
  subst same
  refine List.forall₂_map_right_iff.mpr (List.forall₂_same.mpr fun entry member => ⟨rfl, ?_, rfl⟩)
  exact (row.placed _ (List.mem_map_of_mem member)).proper

end

/-- Defaults out of reach stand for the defaults. -/
theorem Pristine.stand {session : Session} {targets imports : Nat}
    (pristine : session.Pristine (defaultsAt targets imports) targets imports)
    (sound : Sound session.cells) :
    List.Forall₂ (SameKey (Stands session.cells)) (defaultsAt targets imports) defaultEntries := by
  -- The two lists are read where the session says they are; all other defaults are leaves.
  have targetsThere := (List.getElem?_eq_some_iff.mp pristine.targets_eq).1
  have importsThere := (List.getElem?_eq_some_iff.mp pristine.imports_eq).1
  have leaf : ∀ text, Stands session.cells (.leaf (.text text)) (.text text) := fun _ => ⟨rfl, rfl⟩
  have targetsValue : (Held.cell targets).value session.cells =
      .list (defaultTargets.map .text) := by
    rw [sound.value_eq (show Held.Proper _ (.cell targets) from targetsThere), Held.shape,
      pristine.targets_eq]
    rfl
  have importsValue : (Held.cell imports).value session.cells = .list [] := by
    rw [sound.value_eq (show Held.Proper _ (.cell imports) from importsThere), Held.shape,
      pristine.imports_eq]
    rfl
  -- The four defaults, in the order in which they are layered.
  exact .cons ⟨rfl, leaf _⟩ (.cons ⟨rfl, targetsThere, targetsValue⟩
    (.cons ⟨rfl, importsThere, importsValue⟩ (.cons ⟨rfl, leaf _⟩ .nil)))

section

variable {hidden : Nat → Prop} {cells : Cells} {targets imports : Nat}
  {fileEntries set : List (String × Held)} {written plain : Context}

/-- The layers of held entries stand for those of plain ones. -/
theorem merged_layers
    (defaults : List.Forall₂ (SameKey (Stands cells)) (defaultsAt targets imports) defaultEntries)
    (file : List.Forall₂ (SameKey (Stands cells)) fileEntries written)
    (free : ∀ entry ∈ fileEntries, entry.1 ≠ "custom" → entry.2.Free hidden)
    (above : EntriesShow hidden cells set plain) :
    Merged hidden cells (assignAll (assignAll (defaultsAt targets imports) fileEntries) set)
      (layered written plain) := by
  -- The three layers stand for plain ones, key by key.
  refine ⟨assignAll_corresponding (assignAll_corresponding defaults file)
    (imp_corresponding above fun _ _ => Shows.toStands), fun entry member unlisted => ?_⟩
  -- An entry of the layers comes from the defaults, from the file, or from what is set above.
  rcases mem_of_mem_assignAll member with lower | upper
  · rcases mem_of_mem_assignAll lower with default | fromFile
    · -- The two defaults that are in cells are those that may be hidden.
      simp only [defaultsAt, List.mem_cons, List.not_mem_nil, or_false] at default
      rcases default with rfl | rfl | rfl | rfl
      · exact fun _ same => by cases same
      · simp at unlisted
      · simp at unlisted
      · exact fun _ same => by cases same
    · exact free entry fromFile fun same => unlisted (by simp [same])
  · exact (above.record.2 entry.2 (List.mem_map_of_mem upper)).free

/-- The layers hold all settings that have a default of their own. -/
theorem complete_layers : ∀ name ∈ defaultNames,
    (lookup? name (assignAll (assignAll (defaultsAt targets imports) fileEntries) set)).isSome := by
  -- The defaults hold all of these names, and no upper layer takes a name away.
  intro name known
  refine isSome_lookup?_assignAll (isSome_lookup?_assignAll ?_ _) _
  revert known name
  simp [defaultNames, defaultsAt, lookup?]

end

/-! ## Settings -/

/-- A change of the cells that may fail leaves the rest of a session alone. -/
theorem run_onCellsOrFail {session : Session} {change : ExceptT SettingsFault (StateM Cells) α}
    {outcome : Except SettingsFault α} {cells : Cells}
    (ran : change.run.run session.cells = (outcome, cells)) :
    (onCellsOrFail change).run.run session = (outcome, { session with cells := cells }) := by
  rw [onCellsOrFail, run_bind_ok (run_onCells ran), run_lifted]

/-- The entries that are set on the spot are those of the plain value. -/
theorem run_overrideEntries (session : Session) {hidden : Nat → Prop}
    (heap : Heap hidden session.cells) {held : Held} {value : Value}
    (stands : Stands session.cells held value) :
    ∃ outcome added, (overrideEntries held).run.run session =
        (outcome, { session with cells := session.cells ++ added }) ∧
      Heap hidden (session.cells ++ added) ∧
      SameUpTo (EntriesShow hidden (session.cells ++ added)) outcome (overridesOf value) := by
  -- Nothing is set by a value that counts as false; any other is taken apart into its entries.
  have read : session.plain held = value := stands.value_eq
  have nothing : ∃ outcome added, (Pure.pure [] : Step (List (String × Held))).run.run session =
        (outcome, { session with cells := session.cells ++ added }) ∧
      Heap hidden (session.cells ++ added) ∧
      SameUpTo (EntriesShow hidden (session.cells ++ added)) outcome (.ok []) :=
    ⟨.ok [], [], by rw [List.append_nil]; rfl, by rwa [List.append_nil], .ok .nil⟩
  unfold overrideEntries overridesOf
  rw [run_bind_ok run_get, read]
  cases value.truth with
  | error cause => exact nothing
  | ok sets =>
    cases sets with
    | false => exact nothing
    -- A value that counts as true is taken apart as the plain one is.
    | true =>
      obtain ⟨outcome, added, ran, grown, same⟩ := mirrors_entriesOf heap stands
      exact ⟨outcome, added, run_onCellsOrFail ran, grown, same⟩

/-- The custom setting is a record of its own when none is set on the spot, and also when anything
goes by a name of its own. -/
def CopiesCustom (written set : Context) : Prop :=
  lookup? "custom" set = none ∨ unknownEntries (layered written set) ≠ []

/-- Settings loaded in a session: they are those that plain values give, and share no list. -/
structure Loaded (session session' : Session) (name : String) (value file : Value)
    (outcome : Except SettingsFault (SettingsOf Held)) : Prop where
  moved : Moved session session' (some name)
  files : session'.files = session.files
  same : SameUpTo (fun own plain => own.map session'.plain = plain) outcome
    (Settings.load session.files value file)
  lists : ∀ own, outcome = .ok own → ∀ field ∈ ["targets", "imports"], Owned session' name own field
  custom : ∀ own written set, outcome = .ok own → entriesOfFile session.files file = .ok written →
    overridesOf value = .ok set → CopiesCustom written set → Owned session' name own "custom"

/-- Settings are made of merged entries and put under a name. -/
def enter (name : String) (entries : List (String × Held)) : Step (SettingsOf Held) := do
  let settings ← onCellsOrFail
    (settingsOf Held.keeper (Settings.default.map Held.leaf) entries)
  modify fun session => { session with things := assign name (.settings settings) session.things }
  return settings

/-- What is loaded once what is set on the spot and the defaults are there. -/
def loadOver (name : String) (file : Value) (held : Held) (defaults : List (String × Held)) :
    Step (SettingsOf Held) := do
  let written ← lifted ((entriesOfFile (← get).files file).mapError .file)
  let fileEntries ← onCells (Held.ofEntries written)
  let set ← overrideEntries held
  enter name (assignAll (assignAll defaults fileEntries) set)

/-- To load settings is to load them over what is set on the spot and the defaults. -/
theorem load_eq_loadOver (name : String) (manager : Manager) (overrides : Overrides)
    (file : Value) :
    load name manager overrides file = (do
      let held ← heldOverrides overrides
      let defaults ← defaultsOf manager
      loadOver name file held defaults) := rfl

/-- A load that fails changes nothing but cells. -/
theorem Loaded.fail {session : Session} {cells : Cells} (grown : Grown session.cells cells)
    (name : String) {value file : Value} {cause : SettingsFault}
    (failed : Settings.load session.files value file = .error cause) :
    Loaded session { session with cells := cells } name value file (.error cause) where
  -- No settings come of it, so whatever is said of settings holds of none.
  moved := Moved.grow grown _
  files := rfl
  same := failed ▸ .error cause
  lists := fun _ same => by cases same
  custom := fun _ _ _ same => by cases same

section

variable {session : Session} {targets imports : Nat} {fileEntries set : List (String × Held)}
  {added before cells : Cells} {own : SettingsOf Held} {plain : Settings}
  {written plainSet : Context}
  (row : Row session.cells.length added (fileEntries.map (·.2)))
  (above : EntriesShow (Reserved session.cells fileEntries) before set plainSet)
  (made : Made (Reserved session.cells fileEntries) before
    (assignAll (assignAll (defaultsAt targets imports) fileEntries) set) cells own plain)
  (more : session.cells.length ≤ before.length)

/-- A custom setting that is not put together is set on the spot, or else a file says it. -/
theorem custom_of_layers {held : Held}
    (found : lookup? "custom" (assignAll (assignAll (defaultsAt targets imports) fileEntries) set) =
      some held) :
    ("custom", held) ∈ set ∨ lookup? "custom" set = none ∧ ("custom", held) ∈ fileEntries := by
  -- The defaults have no custom setting, so it comes from one of the two layers above.
  rcases lookup?_assignAll_cases found with upper | ⟨missing, lower⟩
  · exact .inl upper
  · rcases lookup?_assignAll_cases lower with fromFile | ⟨-, default⟩
    · exact .inr ⟨missing, fromFile⟩
    · simp [defaultsAt, lookup?] at default

include row above made more

/-- Settings that are made of the layers are in new cells, or in cells that were held. -/
theorem newly_of_made :
    Newly session { session with cells := cells } (.settings own) := by
  -- No cell that no cell held comes up again, as those are reserved.
  have old : ∀ held : Held, held.Free (Reserved session.cells fileEntries) →
      ∀ address, held = .cell address → address < session.cells.length →
        ¬ Unheld session.cells address :=
    fun held free address same there alone => free address same (.inl ⟨there, alone⟩)
  -- A cell behind the old ones is none of them.
  have new : ∀ held : Held, (∃ address, held = .cell address ∧ before.length ≤ address ∧
        Unheld cells address) →
      ∀ address, held = .cell address → address < session.cells.length →
        ¬ Unheld session.cells address := by
    rintro held ⟨address, rfl, high, -⟩ _ ⟨⟩ there
    omega
  -- The custom setting is shared with a layer or put together anew.
  have custom : ∀ address, own.custom = .cell address → address < session.cells.length →
      ¬ Unheld session.cells address := by
    rcases made.custom with ⟨-, shared⟩ | fresh
    · rcases custom_of_layers shared with upper | ⟨-, fromFile⟩
      · exact old _ (above.record.2 own.custom (List.mem_map_of_mem upper)).free
      · intro address same there
        have placed := row.placed _ (List.mem_map_of_mem fromFile)
        rw [same] at placed
        obtain ⟨high, -, -⟩ := placed
        omega
    · exact new _ fresh
  -- The five settings one by one, in the order in which they are entries.
  have each : ∀ entry ∈ own.entries, ∀ address, entry.2 = .cell address →
      address < session.cells.length → ¬ Unheld session.cells address := by
    simp only [SettingsOf.entries, List.forall_mem_cons]
    exact ⟨old _ made.package.2, new _ made.targets, new _ made.imports, old _ made.format.2,
      custom, by simp⟩
  -- What the settings lead to is one of their fields.
  intro root member
  obtain ⟨entry, inside, rfl⟩ := List.mem_map.mp member
  exact ⟨made.proper entry inside, each entry inside⟩

omit row above made more in
/-- A new cell that one setting alone holds is held by no other thing, either. -/
theorem owned_of_new (good : Good session) {name field : String}
    (alone : ∀ address, lookup? field own.entries = some (.cell address) →
      session.cells.length ≤ address ∧ Unheld cells address ∧
        ∀ entry ∈ own.entries, entry.1 ≠ field → entry.2 ≠ .cell address) :
    Owned { session with cells := cells, things := assign name (.settings own) session.things }
      name own field := by
  -- The other things led to old cells only, and they still do.
  refine ⟨lookup?_assign_self .., fun address held => ?_⟩
  obtain ⟨new, unheld, fields⟩ := alone address held
  refine ⟨unheld, fun other thing apart found root => ?_, fields⟩
  have found' : lookup? other session.things = some thing :=
    (lookup?_assign_of_ne apart ..).symm.trans found
  exact (good.proper other thing found' _ root).ne new rfl

omit row above in
/-- Both lists of settings that are loaded are theirs alone. -/
theorem owned_lists (good : Good session) (name : String) : ∀ field ∈ ["targets", "imports"],
    Owned { session with cells := cells, things := assign name (.settings own) session.things }
      name own field := by
  -- Both lists are in new cells, and no two settings are in one cell.
  obtain ⟨target, targetsAt, targetNew, targetAlone⟩ := made.targets
  obtain ⟨import', importsAt, importNew, importAlone⟩ := made.imports
  obtain ⟨customTargets, customImports, targetsImports⟩ := made.apart
  rw [targetsAt] at customTargets targetsImports
  rw [importsAt] at customImports targetsImports
  simp only [List.forall_mem_cons]
  refine ⟨owned_of_new good fun address held => ?_, owned_of_new good fun address held => ?_,
    by simp⟩
  · -- The list of targets is apart from the imports and from the custom setting.
    obtain rfl : target = address := by
      simpa [SettingsOf.entries, lookup?, targetsAt] using held
    refine ⟨Nat.le_trans more targetNew, targetAlone, ?_⟩
    simp only [SettingsOf.entries, List.forall_mem_cons]
    exact ⟨fun _ => made.package.1.ne targetNew, fun other => absurd rfl other,
      fun _ same => targetsImports (importsAt.symm.trans same).symm,
      fun _ => made.format.1.ne targetNew, fun _ => customTargets, by simp⟩
  · -- The list of imports is so by the same facts, read the other way.
    obtain rfl : import' = address := by
      simpa [SettingsOf.entries, lookup?, importsAt] using held
    refine ⟨Nat.le_trans more importNew, importAlone, ?_⟩
    simp only [SettingsOf.entries, List.forall_mem_cons]
    exact ⟨fun _ => made.package.1.ne importNew,
      fun _ same => targetsImports (targetsAt.symm.trans same), fun other => absurd rfl other,
      fun _ => made.format.1.ne importNew, fun _ => customImports, by simp⟩

/-- The custom setting of settings that are loaded is theirs alone when it is put together. -/
theorem owned_custom (good : Good session) (name : String)
    (merged : Merged (Reserved session.cells fileEntries) before
      (assignAll (assignAll (defaultsAt targets imports) fileEntries) set)
      (layered written plainSet))
    (heap : Heap (Reserved session.cells fileEntries) cells)
    (copies : CopiesCustom written plainSet) :
    Owned { session with cells := cells, things := assign name (.settings own) session.things }
      name own "custom" := by
  -- What is owned is a new cell that no other setting is in.
  refine owned_of_new good fun address held => ?_
  have customAt : own.custom = .cell address := by
    simpa [SettingsOf.entries, lookup?] using held
  obtain ⟨customTargets, customImports, -⟩ := made.apart
  have others : own.packageName ≠ .cell address → own.formatCommand ≠ .cell address →
      ∀ entry ∈ own.entries, entry.1 ≠ "custom" → entry.2 ≠ .cell address := by
    intro package format
    simp only [SettingsOf.entries, List.forall_mem_cons]
    exact ⟨fun _ => package, fun _ same => customTargets (customAt.trans same.symm),
      fun _ same => customImports (customAt.trans same.symm), fun _ => format,
      fun other => absurd rfl other, by simp⟩
  -- Either no unknown entry goes over the custom setting, or it is put together in a new cell.
  rcases made.custom with ⟨none, shared⟩ | ⟨_, same, new, alone⟩
  · -- What is not put together was not set on the spot, so a file says it, in a new cell.
    have plainNone : unknownEntries (layered written plainSet) = [] := by
      have alike : List.Forall₂ (SameKey (Stands before)) (unknownEntries _) (unknownEntries _) :=
        filter_corresponding merged.stand fun name => !settingNames.contains name
      rw [none] at alike
      exact List.forall₂_nil_left_iff.mp alike
    have plainMissing := copies.resolve_right fun some => some plainNone
    have missing : lookup? "custom" set = Option.none := by
      have pair := lookup?_corresponding above "custom"
      rw [plainMissing] at pair
      generalize lookup? "custom" set = found at pair ⊢
      cases pair
      rfl
    rcases custom_of_layers shared with upper | ⟨-, fromFile⟩
    · exact absurd (List.mem_map_of_mem upper) (lookup?_eq_none_iff.mp missing)
    · rw [customAt] at fromFile
      have reserved : Reserved session.cells fileEntries address := .inr fromFile
      obtain ⟨new, -, -⟩ := row.placed _ (List.mem_map_of_mem fromFile)
      exact ⟨new, heap.unheld address reserved,
        others (fun same => made.package.2 address same reserved)
          fun same => made.format.2 address same reserved⟩
  · -- What is put together is in a new cell, behind all that was there.
    obtain rfl := Held.cell.inj (same.symm.trans customAt)
    exact ⟨Nat.le_trans more new, alone, others (made.package.1.ne new) (made.format.1.ne new)⟩

omit made more in
/-- Settings are made of the layers as plain values give them. -/
theorem run_enter (good : Good session) (behind' : ∃ rest, before = session.cells ++ rest)
    (heap : Heap (Reserved session.cells fileEntries) before)
    (merged : Merged (Reserved session.cells fileEntries) before
      (assignAll (assignAll (defaultsAt targets imports) fileEntries) set)
      (layered written plainSet))
    {value file : Value} (found : entriesOfFile session.files file = .ok written)
    (taken : overridesOf value = .ok plainSet) (name : String) :
    ∃ outcome session',
      (enter name (assignAll (assignAll (defaultsAt targets imports) fileEntries) set)).run.run
          { session with cells := before } = (outcome, session') ∧
        Loaded session session' name value file outcome := by
  -- Held layers and plain ones are made into settings side by side.
  obtain ⟨outcome, last, ran, heapLast, same⟩ :=
    mirrors_settingsOf heap merged complete_layers (Settings.default.map Held.leaf)
      Settings.default
  have plain : Settings.load session.files value file = (settingsOf Keeper.plain
      Settings.default (layered written plainSet) : ExceptT SettingsFault Id Settings).run :=
    load_eq_of_ok found taken
  obtain ⟨rest, rfl⟩ := behind'
  have grown : Grown session.cells (session.cells ++ rest ++ last) :=
    heapLast.grown ⟨rest ++ last, List.append_assoc ..⟩ fun _ there alone => .inl ⟨there, alone⟩
  unfold enter
  generalize (settingsOf Keeper.plain Settings.default (layered written plainSet) :
    ExceptT SettingsFault Id Settings).run = plainOutcome at plain same
  cases same with
  | error cause =>
    refine ⟨.error cause, _, by rw [run_bind_error (run_onCellsOrFail ran)], ?_⟩
    exact Loaded.fail grown name plain
  -- Settings that are made are given their name, and their lists are theirs alone.
  | @ok own settings made =>
    refine ⟨.ok own, _, by rw [run_bind_ok (run_onCellsOrFail ran)]; rfl, ?_⟩
    have more : session.cells.length ≤ (session.cells ++ rest).length := by simp
    have lists := owned_lists made more good name
    have custom := owned_custom row above made more good name merged heapLast
    refine ⟨Moved.enter grown name (newly_of_made row above made more), rfl,
      plain ▸ .ok made.value_eq, ?_, ?_⟩
    · rintro _ ⟨⟩
      exact lists
    · -- The entries of file and value are those that were loaded, so their custom setting is meant.
      rintro _ written' set' ⟨⟩ found' taken' copies
      obtain rfl := Except.ok.inj (found.symm.trans found')
      obtain rfl := Except.ok.inj (taken.symm.trans taken')
      exact custom copies

end

section

variable {session : Session} (good : Good session)
include good

/-- Settings are loaded over what is set on the spot and over defaults out of reach. -/
theorem run_loadOver {targets imports : Nat}
    (pristine : session.Pristine (defaultsAt targets imports) targets imports) {held : Held}
    {value : Value} (stands : Stands session.cells held value) (name : String) (file : Value) :
    ∃ outcome session',
      (loadOver name file held (defaultsAt targets imports)).run.run session =
        (outcome, session') ∧ Loaded session session' name value file outcome := by
  -- The file comes first, then what is set on the spot, and the first fault ends it all.
  unfold loadOver
  rw [run_bind_ok run_get]
  cases found : entriesOfFile session.files file with
  | error cause =>
    refine ⟨.error (.file cause), session, rfl, Loaded.fail (.refl good.sound) name ?_⟩
    rw [Settings.load, found]
    rfl
  -- The entries of the file are put into new cells, behind which the others are taken.
  | ok written =>
    obtain ⟨fileEntries, added, ranFile, island, row, sameFile⟩ :=
      Held.run_ofEntries written session.cells good.sound
    have heap := heap_reserved good.sound island row
    obtain ⟨setOutcome, more, ranSet, heapSet, sameSet⟩ :=
      run_overrideEntries { session with cells := session.cells ++ added } heap
        (stands.append good.sound heap.sound)
    rw [mapError_ok, run_bind_ok (run_lifted (.ok written)), run_bind_ok (run_onCells ranFile)]
    have behind' : ∃ rest, session.cells ++ added ++ more = session.cells ++ rest :=
      ⟨added ++ more, List.append_assoc ..⟩
    generalize taken : overridesOf value = plainOutcome at sameSet
    cases sameSet with
    | error cause =>
      refine ⟨.error cause, _, by rw [run_bind_error ranSet], Loaded.fail ?_ name ?_⟩
      · exact heapSet.grown behind' fun _ there alone => .inl ⟨there, alone⟩
      · rw [Settings.load, found, taken]
        rfl
    | @ok set plainSet above =>
      -- The lower layers stand for their values behind the cells of the upper ones, too.
      have defaults := imp_corresponding (pristine.stand good.sound) fun _ _ stands =>
        (stands.append good.sound heap.sound).append heap.sound heapSet.sound
      have fromFile := imp_corresponding (stand_of_row row sameFile) fun _ _ stands =>
        stands.append heap.sound heapSet.sound
      have merged := merged_layers defaults fromFile (free_of_row row) above
      rw [run_bind_ok ranSet]
      exact run_enter row above good behind' heapSet merged found taken name

/-- Settings are loaded in a session as plain values give them. -/
theorem run_load {overrides : Overrides} (proper : overrides.Proper session.cells) (name : String)
    (manager : Manager) (file : Value) :
    ∃ outcome session', (load name manager overrides file).run.run session = (outcome, session') ∧
      Loaded session session' name (session.given overrides) file outcome := by
  -- Three stages, each of which leads from a good session to a good one.
  obtain ⟨held, added, ranHeld, island, stands⟩ := run_heldOverrides good proper
  have first := Moved.grow (island.grown good.sound) (some name)
  obtain ⟨targets, imports, session', ranDefaults, grown, things, files, second, pristine⟩ :=
    run_defaultsOf (first.good good) manager
  have good' := second.good (first.good good)
  -- The defaults are put behind what is set on the spot, which still shows its value.
  have stands' : Stands session'.cells held (session.given overrides) :=
    ⟨stands.proper.grow grown.length_le,
      (grown.value_eq (first.good good).sound stands.proper).trans stands.value_eq⟩
  obtain ⟨outcome, last, ran, loaded⟩ := run_loadOver good' pristine stands' name file
  refine ⟨outcome, last, ?_, ?_⟩
  · rw [load_eq_loadOver, run_bind_ok ranHeld, run_bind_ok ranDefaults, ran]
  · -- What one stage after another does is what the load does.
    exact {
      moved := first.trans ((second.mono _).trans loaded.moved)
      files := loaded.files.trans files
      same := files ▸ loaded.same
      lists := loaded.lists
      custom := fun own written set ended found =>
        loaded.custom own written set ended (files ▸ found) }

end

end Session

end Tablewright
