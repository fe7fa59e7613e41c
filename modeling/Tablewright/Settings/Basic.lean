import Tablewright.Json.Fault
import Tablewright.Text.Utf8
import Tablewright.Value.Written

/-! The settings of generation, and why they cannot be had. -/

namespace Tablewright

/-- The five settings, each in whatever form values are kept. -/
structure SettingsOf (α : Type) where
  packageName : α
  targets : α
  imports : α
  formatCommand : α
  /-- All else that was set. -/
  custom : α

/-- Settings as plain values. -/
abbrev Settings := SettingsOf Value

/-- The names of the settings. -/
def settingNames : List String :=
  ["package_name", "targets", "imports", "gofmt_command", "custom"]

/-- The targets that have built-in templates. -/
def defaultTargets : List String := ["struct", "select", "insert", "delete"]

/-- The settings that hold when nothing is set. -/
def Settings.default : Settings where
  packageName := .text "models"
  targets := .list (defaultTargets.map .text)
  imports := .list []
  formatCommand := .text "gofmt"
  custom := .record []

/-- The same settings in another form. -/
def SettingsOf.map (f : α → β) (settings : SettingsOf α) : SettingsOf β :=
  ⟨f settings.packageName, f settings.targets, f settings.imports, f settings.formatCommand,
    f settings.custom⟩

/-- The settings under their names. -/
def SettingsOf.entries (settings : SettingsOf α) : List (String × α) :=
  [("package_name", settings.packageName), ("targets", settings.targets),
    ("imports", settings.imports), ("gofmt_command", settings.formatCommand),
    ("custom", settings.custom)]

/-- Settings where each name may have a value of its own. -/
def SettingsOf.updated (settings : SettingsOf α) (entries : List (String × α)) : SettingsOf α where
  packageName := (lookup? "package_name" entries).getD settings.packageName
  targets := (lookup? "targets" entries).getD settings.targets
  imports := (lookup? "imports" entries).getD settings.imports
  formatCommand := (lookup? "gofmt_command" entries).getD settings.formatCommand
  custom := (lookup? "custom" entries).getD settings.custom

/-- Why a value cannot be taken apart into entries. -/
inductive EntryFault where
  | value (cause : Fault)
  /-- The item at a place is no pair. -/
  | noSequence (index : Nat)
  /-- The item at a place has another length than a pair. -/
  | noPair (index length : Nat)
  deriving DecidableEq, Repr

/-- What is said of a value without entries. -/
def EntryFault.message : EntryFault → String
  | .value cause => cause.message
  | .noSequence index =>
    "cannot convert dictionary update sequence element #" ++ toString index ++ " to a sequence"
  | .noPair index length =>
    "dictionary update sequence element #" ++ toString index ++ " has length " ++
      toString length ++ "; 2 is required"

/-- What is wrong with a settings file. -/
inductive FileFault where
  /-- A value of this kind names no file. -/
  | noPath (kind : Kind)
  /-- A part of the path is longer than a file name can be. -/
  | nameTooLong (path : String)
  | notFound (path : String)
  /-- The name does not end as that of a settings file. -/
  | wrongSuffix (path : String)
  | directory (path : String)
  /-- The bytes are no text. -/
  | undecodable (cause : Text.Utf8Error)
  /-- The text is not read. -/
  | unread (path : String) (text : List Char) (cause : Json.Fault)
  /-- The text spells something else than entries. -/
  | noObject (path : String)
  deriving DecidableEq, Repr

/-- What is said of a settings file. -/
def FileFault.message : FileFault → String
  | .noPath kind => "expected str, bytes or os.PathLike object, not " ++ kind.name
  | .nameTooLong path => "[Errno 36] File name too long: " ++ Text.quoted path
  | .notFound path => "Configuration file not found: " ++ path
  | .wrongSuffix path => "Configuration file must be JSON: " ++ path
  | .directory path =>
    "Failed to load configuration file " ++ path ++ ": [Errno 21] Is a directory: " ++
      Text.quoted path
  | .undecodable cause => cause.message
  | .unread path text cause =>
    match cause with
    | .at .. => "Invalid JSON in configuration file " ++ path ++ ": " ++ cause.message text
    -- Only faults at a place in the text are told as faults of the file.
    | _ => cause.message text
  | .noObject path => "Configuration file must contain a JSON object: " ++ path

/-- Why settings cannot be had. -/
inductive SettingsFault where
  | value (cause : Fault)
  | entry (cause : EntryFault)
  | file (cause : FileFault)
  /-- A setting that has to be a list is none. -/
  | notList (name : String) (kind : Kind)
  /-- No setting goes by this name. -/
  | unknownName (name : String)
  /-- Settings have no part of this name. -/
  | noSetting (name : String)
  /-- A record has no entry of this name. -/
  | noKey (name : String)
  /-- A value of this kind has no parts by name. -/
  | noParts (kind : Kind)
  /-- A value of this kind has no items to be added to. -/
  | noItems (kind : Kind)
  /-- A value of this kind has no entries to be set. -/
  | noEntries (kind : Kind)
  deriving DecidableEq, Repr

/-- What is said when a part is asked of a value without parts. -/
def noPartsMessage : Kind → String
  | .list => "list indices must be integers or slices, not str"
  | .text => "string indices must be integers, not 'str'"
  | kind => "'" ++ kind.name ++ "' object is not subscriptable"

/-- What is said when an entry is put into a value without entries. -/
def noEntriesMessage : Kind → String
  | .list => "list indices must be integers or slices, not str"
  | kind => "'" ++ kind.name ++ "' object does not support item assignment"

/-- What is said of settings that cannot be had. -/
def SettingsFault.message : SettingsFault → String
  | .value cause => cause.message
  | .entry cause => cause.message
  | .file cause => cause.message
  | .notList name kind => "'" ++ name ++ "' must be a list, got " ++ kind.name
  | .unknownName name =>
    "GeneratorConfig.__init__() got an unexpected keyword argument '" ++ name ++ "'"
  | .noSetting name => "'GeneratorConfig' object has no attribute '" ++ name ++ "'"
  | .noKey name => Text.quoted name
  | .noParts kind => noPartsMessage kind
  | .noItems kind => "'" ++ kind.name ++ "' object has no attribute 'append'"
  | .noEntries kind => noEntriesMessage kind

end Tablewright
