import Tablewright.Settings.Basic
import Tablewright.Text.Case
import Tablewright.Text.Identifier
import Tablewright.Value.Access

/-! Warnings about settings. -/

namespace Tablewright

/-- The warning about the name of a package. -/
def packageWarnings (name : String) : List String :=
  if !Text.isIdentifier name then ["Invalid Go package name: " ++ name]
  else if !Text.isLowerCase name then ["Go package names should be lowercase: " ++ name]
  else []

/-- Whether a target has a built-in template. -/
def isDefaultTarget : Value → Bool
  | .text s => defaultTargets.contains s
  | _ => false

/-- The warning about targets without built-in templates. -/
def unknownTargets (targets : List Value) : Except Fault (List String) := do
  match targets.filter fun target => !isDefaultTarget target with
  | [] => return []
  | unknown => return ["Unknown targets: " ++ Text.joined ", " (← joinedTexts 0 unknown)]

/-- The warnings about settings. -/
def Settings.warnings (settings : Settings) : Except Fault (List String) := do
  let package := packageWarnings (← settings.packageName.asText "isidentifier")
  let unknown ← unknownTargets (← settings.targets.elements)
  let bare := if ← settings.targets.truth then [] else ["No targets configured"]
  return package ++ unknown ++ bare

end Tablewright
