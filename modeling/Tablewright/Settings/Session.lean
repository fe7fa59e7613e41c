import Tablewright.Settings.Load
import Tablewright.Settings.Warnings

/-! A session of settings: files, values and settings by name, and the lists that they share. -/

namespace Tablewright

/-- What goes by a name in a session. -/
inductive Thing where
  | value (held : Held)
  | settings (settings : SettingsOf Held)

/-- Where settings are loaded from: one of the named sources of defaults, or the common one. -/
abbrev Manager := Option String

/-- Everything that is there in a session. -/
structure Session where
  cells : Cells := []
  files : Files := []
  /-- The defaults of each manager that was used, which are lists like any other. -/
  managers : List (Manager × List (String × Held)) := []
  things : List (String × Thing) := []

/-- What is set on the spot: a new value, or one that goes by a name. -/
inductive Overrides where
  | given (value : Value)
  | held (held : Held)

namespace Session

/-- A step of a session, which may fail after having changed it. -/
abbrev Step := ExceptT SettingsFault (StateM Session)

/-- A result, as a step of a session. -/
def lifted (result : Except SettingsFault α) : Step α := ExceptT.mk (pure result)

/-- A change of the cells, as a step of a session. -/
def onCells (change : StateM Cells α) : Step α := do
  let session ← get
  let (result, cells) := change.run session.cells
  set { session with cells := cells }
  return result

/-- A change of the cells that may fail, as a step of a session. -/
def onCellsOrFail (change : ExceptT SettingsFault (StateM Cells) α) : Step α := do
  lifted (← onCells change.run)

/-- The defaults of a manager, made when it is first used. -/
def defaultsOf (manager : Manager) : Step (List (String × Held)) := do
  let session ← get
  match session.managers.find? fun entry => entry.1 == manager with
  | some (_, defaults) => return defaults
  | none =>
    let defaults ← onCells (Held.ofEntries defaultEntries)
    modify fun session => { session with managers := (manager, defaults) :: session.managers }
    return defaults

/-- The plain value of what is held. -/
def plain (session : Session) (held : Held) : Value := held.value session.cells

/-- What is set on the spot, as a held value. -/
def heldOverrides : Overrides → Step Held
  | .given value => onCells (Held.ofValue value)
  | .held held => return held

/-- The entries that are set on the spot; what is untrue sets nothing. -/
def overrideEntries (held : Held) : Step (List (String × Held)) := do
  match ((← get).plain held).truth with
  | .ok true => onCellsOrFail (entriesOf Held.keeper held)
  | _ => return []

/-- Loads settings and puts them under a name. -/
def load (name : String) (manager : Manager) (overrides : Overrides) (file : Value) :
    Step (SettingsOf Held) := do
  let held ← heldOverrides overrides
  let defaults ← defaultsOf manager
  let written ← lifted ((entriesOfFile (← get).files file).mapError .file)
  let fileEntries ← onCells (Held.ofEntries written)
  let set ← overrideEntries held
  -- Later layers go over earlier ones: the defaults, the file, what is set on the spot.
  let entries := assignAll (assignAll defaults fileEntries) set
  let settings ← onCellsOrFail
    (settingsOf Held.keeper (Settings.default.map Held.leaf) entries)
  modify fun session => { session with things := assign name (.settings settings) session.things }
  return settings

/-- Makes settings without any check and puts them under a name. -/
def make (name : String) (fields : Context) : Step (SettingsOf Held) := do
  let plain ← lifted (Settings.make fields)
  let entries ← onCells (Held.ofEntries plain.entries)
  let settings := (plain.map Held.leaf).updated entries
  modify fun session => { session with things := assign name (.settings settings) session.things }
  return settings

/-- Puts a value under a name. -/
def keep (name : String) (value : Value) : Step Held := do
  let held ← onCells (Held.ofValue value)
  modify fun session => { session with things := assign name (.value held) session.things }
  return held

/-- The plain form of what goes by a name. -/
def shown (session : Session) : Thing → Value
  | .value held => session.plain held
  | .settings settings => .record (settings.map session.plain).entries

/-- The part of a thing that goes by a name. -/
def part (name : String) (thing : Thing) : Step Held := do
  match thing with
  | .settings settings =>
    match lookup? name settings.entries with
    | some held => return held
    | none => throw (.noSetting name)
  -- Of values only records have parts.
  | .value held =>
    match held.shape (← get).cells with
    | .record entries =>
      match lookup? name entries with
      | some part => return part
      | none => throw (.noKey name)
    | shape => throw (.noParts shape.kind)

/-- Adds an item to the list of a name in a thing. -/
def append (name : String) (item : Value) (thing : Thing) : Step Unit := do
  let target ← part name thing
  match target.shape (← get).cells with
  | .list items =>
    -- The list grows in its own cell, so whatever leads there has the item too.
    let held ← onCells (Held.ofValue item)
    modify fun session =>
      { session with cells := target.overwrite session.cells (.list (items ++ [held])) }
  | shape => throw (.noItems shape.kind)

/-- Sets an entry of the custom setting. -/
def put (key : String) (value : Value) (settings : SettingsOf Held) : Step Unit := do
  -- The entry goes into the record itself, which other things may lead to as well.
  let target := settings.custom
  match target.shape (← get).cells with
  | .record entries =>
    let held ← onCells (Held.ofValue value)
    modify fun session =>
      { session with cells := target.overwrite session.cells (.record (assign key held entries)) }
  | shape => throw (.noEntries shape.kind)

/-- The warnings about settings. -/
def warnings (settings : SettingsOf Held) : Step (List String) := do
  let session ← get
  lifted ((Settings.warnings (settings.map session.plain)).mapError .value)

/-- Puts a file, or a directory, at a path. -/
def write (path : Path) (entry : FileEntry) : Step Unit :=
  modify fun session => { session with files := session.files.put path.parts entry }

end Session

end Tablewright
