import Tablewright.Settings.File
import Tablewright.Settings.Merge

/-! Settings from three layers: the defaults, a file, and what is set on the spot. -/

namespace Tablewright

/-- The entries that are set on the spot; what is untrue sets nothing. -/
def overridesOf (overrides : Value) : Except SettingsFault Context :=
  match overrides.truth with
  | .ok true => entriesOf Keeper.plain overrides
  | _ => pure []

/-- The defaults that any layer may go over. -/
def defaultEntries : Context :=
  Settings.default.entries.filter fun entry => entry.1 != "custom"

/-- The settings of a file with what is set on the spot over it. -/
def Settings.load (files : Files) (overrides file : Value) : Except SettingsFault Settings := do
  let written ← (entriesOfFile files file).mapError SettingsFault.file
  let set ← overridesOf overrides
  settingsOf Keeper.plain Settings.default (assignAll (assignAll defaultEntries written) set)

/-- Settings with some fields given and no check at all. -/
def Settings.make (fields : Context) : Except SettingsFault Settings :=
  match unknownEntries fields with
  | [] => pure (Settings.default.updated fields)
  | (name, _) :: _ => throw (.unknownName name)

/-- What settings are given as: themselves, or what is set on the spot over the defaults. -/
inductive GivenSettings where
  | settings (settings : Settings)
  | overrides (overrides : Value)

/-- The settings that were given, or those that are loaded when they were not. -/
def GivenSettings.load : GivenSettings → Except SettingsFault Settings
  | .settings own => pure own
  | .overrides set => Settings.load [] set .null

end Tablewright
