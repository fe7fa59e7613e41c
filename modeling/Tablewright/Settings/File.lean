import Tablewright.Json.Reader
import Tablewright.Settings.Files
import Tablewright.Text.Basic
import Tablewright.Value.Access

/-! Settings files: entries written as a JSON object. -/

namespace Tablewright

/-- What the name of a settings file ends with, in whatever case. -/
def settingsSuffix : List Char := ['.', 'j', 's', 'o', 'n']

/-- Whether a path goes by the name of a settings file. -/
def isSettingsPath (path : Path) : Bool := path.suffix.map Char.toLower == settingsSuffix

/-- The entries that the bytes of a settings file spell. -/
def entriesOfBytes (path : String) (bytes : List UInt8) : Except FileFault Context := do
  let decoded ← (Text.decodeUtf8 bytes).mapError FileFault.undecodable
  let text := Text.unixLines decoded.toList
  match ← (Json.read text).mapError (FileFault.unread path text) with
  | .record entries => return entries
  | _ => throw (.noObject path)

/-- The entries of a settings file. -/
def entriesOfPath (files : Files) (path : Path) : Except FileFault Context := do
  -- Whether the file is there is asked before its name is looked at.
  match ← files.find path with
  | none => throw (.notFound path.text)
  | some entry =>
    if isSettingsPath path then
      match entry with
      | .directory => throw (.directory path.text)
      | .content bytes => entriesOfBytes path.text bytes
    else throw (.wrongSuffix path.text)

/-- The entries of the file that a value names, or none when it names none. -/
def entriesOfFile (files : Files) (file : Value) : Except FileFault Context :=
  match file with
  | .text s => if s = "" then pure [] else entriesOfPath files (Path.ofText s)
  | value =>
    match value.truth with
    | .ok false => pure []
    | _ => throw (.noPath value.kind)

end Tablewright
