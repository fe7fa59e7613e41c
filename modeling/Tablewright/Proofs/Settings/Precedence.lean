import Tablewright.Proofs.Json.Reader
import Tablewright.Proofs.Value.Merging
import Tablewright.Settings.Load

/-! Settings in layers: which comes from the defaults, from a file, or from what is set. -/

namespace Tablewright

/-- The entries of a settings file go by distinct names. -/
theorem nodup_entriesOfFile {files : Files} {file : Value} {written : Context}
    (found : entriesOfFile files file = .ok written) : (keysOf written).Nodup := by
  -- Wherever entries come from a file, they are those of an object that was read.
  have ofBytes : ∀ {path bytes}, entriesOfBytes path bytes = .ok written →
      (keysOf written).Nodup := by
    intro path bytes made
    obtain ⟨decoded, -, made⟩ := exists_of_bind_eq_ok made
    obtain ⟨value, spelled, made⟩ := exists_of_bind_eq_ok made
    split at made
    · cases made
      exact Json.keyed_read (eq_ok_of_mapError spelled)
    · cases made
  -- A path leads to bytes, and all other ways from it end in a fault.
  have ofPath : ∀ {path}, entriesOfPath files path = .ok written → (keysOf written).Nodup := by
    intro path made
    obtain ⟨place, -, made⟩ := exists_of_bind_eq_ok made
    split at made
    · cases made
    · split at made
      · split at made
        · cases made
        · exact ofBytes made
      · cases made
  -- What is no path at all leaves no entries, and these are distinct as well.
  unfold entriesOfFile at found
  split at found
  · split at found
    · cases found
      simp [keysOf]
    · exact ofPath found
  · split at found
    · cases found
      simp [keysOf]
    · cases found

/-- What is set on the spot as a record is taken entry by entry. -/
theorem overridesOf_record (entries : Context) : overridesOf (.record entries) = .ok entries := by
  cases entries <;> rfl

/-- No file is named, so nothing is written. -/
theorem entriesOfFile_null (files : Files) : entriesOfFile files .null = .ok [] := rfl

section

variable {written set : Context}

/-- All entries that settings are made of, layer over layer. -/
def layered (written set : Context) : Context := assignAll (assignAll defaultEntries written) set

/-- To load settings is to make them of all layers. -/
theorem load_eq_of_ok {files : Files} {overrides file : Value}
    (found : entriesOfFile files file = .ok written) (taken : overridesOf overrides = .ok set) :
    Settings.load files overrides file =
      settingsOf Keeper.plain Settings.default (layered written set) := by
  simp only [Settings.load, found, mapError_ok, taken, Bind.bind, Except.bind, layered]

/-- What is set on the spot as a record is the uppermost layer. -/
theorem load_eq_settingsOf {files : Files} {file : Value}
    (found : entriesOfFile files file = .ok written) (set : Context) :
    Settings.load files (.record set) file =
      settingsOf Keeper.plain Settings.default (layered written set) :=
  load_eq_of_ok found (overridesOf_record set)

/-- A file under what is set on the spot is no other than both set on the spot. -/
theorem load_merged {files : Files} {file : Value}
    (found : entriesOfFile files file = .ok written) (set : Context) :
    Settings.load files (.record set) file =
      Settings.load files (.record (assignAll written set)) .null := by
  -- To put the merged layer over the defaults is to put its two parts there one by one.
  rw [load_eq_settingsOf found, load_eq_settingsOf (entriesOfFile_null files), layered, layered,
    assignAll_nil, assignAll_assignAll (nodup_entriesOfFile found)]

/-- What the upper layers hold under a name: what is set on the spot, or else what is written. -/
def chosen? (written set : Context) (name : String) : Option Value :=
  (lookup? name set).or (lookup? name written)

/-- Each name has what the upper layers hold under it, or else its default. -/
theorem lookup?_layered (onceWritten : (keysOf written).Nodup) (onceSet : (keysOf set).Nodup)
    (name : String) :
    lookup? name (layered written set) =
      (chosen? written set name).or (lookup? name defaultEntries) := by
  -- Each layer is searched before the one below it.
  rw [layered, lookup?_assignAll onceSet, lookup?_assignAll onceWritten, chosen?, Option.or_assoc]

/-- Entries under names of their own stay apart when one layer is put over another. -/
theorem unknownEntries_assignAll (entries added : Context) :
    unknownEntries (assignAll entries added) =
      assignAll (unknownEntries entries) (unknownEntries added) :=
  filter_assignAll (fun name => !settingNames.contains name) entries added

/-- Distinct names are distinct among those that are no settings, too. -/
theorem nodup_unknownEntries {entries : Context} (once : (keysOf entries).Nodup) :
    (keysOf (unknownEntries entries)).Nodup :=
  once.sublist (List.filter_sublist.map _)

/-- An entry under a name of its own is found as before, and settings are not found. -/
theorem lookup?_unknownEntries (name : String) (entries : Context) :
    lookup? name (unknownEntries entries) =
      if settingNames.contains name then none else lookup? name entries := by
  rw [unknownEntries, lookup?_filter (fun name => !settingNames.contains name)]
  cases settingNames.contains name <;> rfl

/-- The entries under names of their own come from the upper layers alone. -/
theorem unknownEntries_layered (onceWritten : (keysOf written).Nodup) (set : Context) :
    unknownEntries (layered written set) =
      assignAll (unknownEntries written) (unknownEntries set) := by
  -- The defaults are settings, so no entry of theirs goes by a name of its own.
  have none : unknownEntries defaultEntries = [] := by decide
  rw [layered, unknownEntries_assignAll, unknownEntries_assignAll, none,
    assignAll_empty (nodup_unknownEntries onceWritten)]

end

section

variable {entries base : Context}

/-- A record that was set as the custom setting has all entries under names of their own over it. -/
theorem customOf_record (once : (keysOf (unknownEntries entries)).Nodup)
    (set : (lookup? "custom" entries).getD (.record []) = .record base) :
    customOf Keeper.plain entries =
      (.ok (.record (assignAll base (unknownEntries entries))) : Except SettingsFault Value) := by
  -- Without entries under names of their own the record is kept, as when nothing is put over it.
  unfold customOf
  cases found : lookup? "custom" entries with
  | none =>
    rw [found] at set
    cases set
    rw [assignAll_empty once]
    cases unknownEntries entries <;> rfl
  -- What was set is a record, whose entries are its own.
  | some value =>
    rw [found] at set
    cases set
    cases unknownEntries entries <;> rfl

/-- A list is taken as it is. -/
theorem listSetting_list (name : String) (items : List Value) :
    listSetting Keeper.plain name (.list items) =
      (.ok (.list items) : Except SettingsFault Value) := rfl

/-- What is no list is refused by its kind. -/
theorem listSetting_of_ne (name : String) {value : Value} (other : ∀ items, value ≠ .list items) :
    listSetting Keeper.plain name value =
      (.error (.notList name value.kind) : Except SettingsFault Value) := by
  cases value with
  | list items => exact absurd rfl (other items)
  | _ => rfl

end

/-- What a setting is to be: the choice of the upper layers, or its default. -/
def picked (written set : Context) (name : String) (default : Value) : Value :=
  (chosen? written set name).getD default

section

variable {written set : Context} (onceWritten : (keysOf written).Nodup)
  (onceSet : (keysOf set).Nodup)
include onceWritten onceSet

/-- A name that has no other default in the lowest layer stands for the choice of the upper ones. -/
theorem getD_lookup?_layered {name : String} {default : Value}
    (own : ∀ given, lookup? name defaultEntries = some given → given = default) :
    (lookup? name (layered written set)).getD default = picked written set name default := by
  -- Where the upper layers choose nothing, both sides come down to the default.
  rw [lookup?_layered onceWritten onceSet, picked]
  cases chosen? written set name with
  | some value => rfl
  | none =>
    cases given : lookup? name defaultEntries with
    | none => rfl
    -- The default of the lowest layer is the one that is asked for.
    | some value => exact own value given

/-- Settings over their defaults are what the upper layers choose. -/
theorem updated_layered :
    Settings.default.updated (layered written set) =
      ⟨picked written set "package_name" (.text "models"),
        picked written set "targets" (.list (defaultTargets.map .text)),
        picked written set "imports" (.list []),
        picked written set "gofmt_command" (.text "gofmt"),
        picked written set "custom" (.record [])⟩ := by
  -- Every setting is updated by its own name, as the layers hold it.
  have picks : ∀ {name default},
      (∀ given, lookup? name defaultEntries = some given → given = default) →
        (lookup? name (layered written set)).getD default = picked written set name default :=
    getD_lookup?_layered onceWritten onceSet
  rw [SettingsOf.updated, picks, picks, picks, picks, picks]
  · rfl
  -- Every setting but the custom one has its default in the lowest layer.
  all_goals rintro _ ⟨⟩
  all_goals rfl

/-- The custom setting is the record that the upper layers choose, under all entries of names of
their own. -/
theorem customOf_layered {base : Context}
    (chosen : picked written set "custom" (.record []) = .record base) :
    customOf Keeper.plain (layered written set) =
      (.ok (.record (assignAll (assignAll base (unknownEntries written)) (unknownEntries set))) :
        Except SettingsFault Value) := by
  -- Names of their own come from both upper layers, in that order, and go over the record.
  have once := nodup_unknownEntries onceWritten
  have unknown := unknownEntries_layered onceWritten set
  have onceUnknown : (keysOf (unknownEntries (layered written set))).Nodup := by
    rw [unknown]
    exact nodup_assignAll once _
  rw [customOf_record onceUnknown
    ((getD_lookup?_layered onceWritten onceSet (by rintro _ ⟨⟩)).trans chosen), unknown,
    assignAll_assignAll once]

end

/-- Each setting is what is set on the spot, or else what the file says, or else its default; what
is set under names of its own goes over the custom setting. -/
theorem load_precedence {files : Files} {file : Value} {written set : Context}
    (found : entriesOfFile files file = .ok written) (onceSet : (keysOf set).Nodup) :
    Settings.load files (.record set) file =
      Settings.load files (.record (assignAll written set)) .null ∧
    ∀ base, picked written set "custom" (.record []) = .record base →
      let targets := picked written set "targets" (.list (defaultTargets.map .text))
      let imports := picked written set "imports" (.list [])
      let custom := assignAll (assignAll base (unknownEntries written)) (unknownEntries set)
      ((∃ items, targets = .list items) → (∃ items, imports = .list items) →
        Settings.load files (.record set) file =
          .ok ⟨picked written set "package_name" (.text "models"), targets, imports,
            picked written set "gofmt_command" (.text "gofmt"), .record custom⟩) ∧
      ((∀ items, targets ≠ .list items) →
        Settings.load files (.record set) file = .error (.notList "targets" targets.kind)) ∧
      ((∃ items, targets = .list items) → (∀ items, imports ≠ .list items) →
        Settings.load files (.record set) file = .error (.notList "imports" imports.kind)) ∧
      (∀ name, lookup? name custom =
        if settingNames.contains name then lookup? name base
        else ((lookup? name set).or (lookup? name written)).or (lookup? name base)) ∧
      ((keysOf base).Nodup → (keysOf custom).Nodup) := by
  -- The layers say what each setting is; the outcome is then read off from the kinds of these.
  have onceWritten := nodup_entriesOfFile found
  refine ⟨load_merged found set, fun base chosen => ?_⟩
  have updated := updated_layered onceWritten onceSet
  have custom := customOf_layered onceWritten onceSet chosen
  rw [load_eq_settingsOf found]
  refine ⟨?_, ?_, ?_, fun name => ?_, fun once => nodup_assignAll (nodup_assignAll once _) _⟩
  · -- Both lists are lists, so every setting is taken as the layers say it.
    rintro ⟨targets, targetsListed⟩ ⟨imports, importsListed⟩
    simp only [settingsOf, custom, updated, targetsListed, importsListed, listSetting_list]
    rfl
  · -- The targets are looked at before the imports.
    intro unlisted
    simp only [settingsOf, custom, updated, listSetting_of_ne _ unlisted]
    rfl
  · -- Targets that are a list leave the imports to fail.
    rintro ⟨targets, targetsListed⟩ unlisted
    simp only [settingsOf, custom, updated, targetsListed, listSetting_list,
      listSetting_of_ne _ unlisted]
    rfl
  · -- A name that is no setting is looked up from the uppermost layer down.
    rw [lookup?_assignAll (nodup_unknownEntries onceSet),
      lookup?_assignAll (nodup_unknownEntries onceWritten), lookup?_unknownEntries,
      lookup?_unknownEntries]
    split
    · rfl
    · rw [Option.or_assoc]

/-- A file with one entry under a name of its own and one custom entry. -/
def layeredText : String := "\x7b\"a\":1,\"custom\":\x7b\"b\":2\x7d\x7d"

/-- The working directory with that file. -/
def layeredFiles : Files := [(["s.json"], .content layeredText.toUTF8.toList)]

/-- The entries of that file. -/
def layeredEntries : Context := [("a", .int 1), ("custom", .record [("b", .int 2)])]

/-- The file is found and read. -/
theorem entriesOfFile_layeredFiles :
    entriesOfFile layeredFiles (.text "s.json") = .ok layeredEntries := by
  -- The way from the path to the entries is gone step by step, each of them computed.
  have named : "s.json" ≠ "" := by decide
  have suffixed : isSettingsPath (Path.ofText "s.json") = true := by decide +kernel
  have found : layeredFiles.find (Path.ofText "s.json") =
      .ok (some (.content layeredText.toUTF8.toList)) := by decide +kernel
  have decoded : Text.decodeUtf8 layeredText.toUTF8.toList = .ok layeredText := by decide +kernel
  have lines : Text.unixLines layeredText.toList = layeredText.toList := by decide +kernel
  have read : Json.read layeredText.toList = .ok (.record layeredEntries) := rfl
  simp only [entriesOfFile, entriesOfPath, entriesOfBytes, if_neg named, found, suffixed, decoded,
    mapError_ok, lines, read, if_true, Bind.bind, Except.bind, Pure.pure, Except.pure]

/-- An entry set on the spot replaces the one of the file, behind the custom entry of the file. -/
theorem load_precedence_layers :
    Settings.load layeredFiles (.record [("a", .int 3), ("package_name", .text "store")])
        (.text "s.json") =
      .ok ⟨.text "store", .list (defaultTargets.map .text), .list [], .text "gofmt",
        .record [("b", .int 2), ("a", .int 3)]⟩ := by
  have onceSet : (keysOf [("a", Value.int 3), ("package_name", .text "store")]).Nodup := by decide
  exact ((load_precedence entriesOfFile_layeredFiles onceSet).2 _ rfl).1 ⟨_, rfl⟩ ⟨_, rfl⟩

end Tablewright
