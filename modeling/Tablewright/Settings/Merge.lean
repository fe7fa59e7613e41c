import Tablewright.Settings.Keeper

/-! Settings put together from layers of entries, each layer over the one before it. -/

namespace Tablewright

/-- The entries under names of their own. -/
def unknownEntries (entries : List (String × α)) : List (String × α) :=
  entries.filter fun entry => !settingNames.contains entry.1

section

variable {m : Type → Type} {α : Type} [Monad m] (keeper : Keeper m α)

/-- A failure to find entries, as one to have settings. -/
def entriesOf (value : α) : ExceptT SettingsFault m (List (String × α)) :=
  ExceptT.mk do return (← (keeper.entries value).run).mapError .entry

/-- The custom setting: the one that was set, under all entries of names of their own. -/
def customOf (entries : List (String × α)) : ExceptT SettingsFault m α := do
  let set := lookup? "custom" entries
  match unknownEntries entries, set with
  -- Without such entries what was set is taken as it is, and shared.
  | [], some value => return value
  | unknown, some value => keeper.keep (.record (assignAll (← entriesOf keeper value) unknown))
  | unknown, none => keeper.keep (.record unknown)

/-- A setting that has to be a list, as a list of its own. -/
def listSetting (name : String) (value : α) : ExceptT SettingsFault m α := do
  match ← keeper.view value with
  | .list items => keeper.keep (.list items)
  | shape => throw (.notList name shape.kind)

/-- The settings that merged entries stand for, over defaults for what they leave out. -/
def settingsOf (defaults : SettingsOf α) (entries : List (String × α)) :
    ExceptT SettingsFault m (SettingsOf α) := do
  -- Faults come up in this order: custom, targets, imports.
  let custom ← customOf keeper entries
  let settings := defaults.updated entries
  let targets ← listSetting keeper "targets" settings.targets
  let imports ← listSetting keeper "imports" settings.imports
  return { settings with custom := custom, targets := targets, imports := imports }

end

end Tablewright
