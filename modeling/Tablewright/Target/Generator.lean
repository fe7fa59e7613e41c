import Tablewright.Formatter.Command
import Tablewright.Generation.Generator
import Tablewright.Settings.Load
import Tablewright.Target.Templates
import Tablewright.Target.Warnings

/-! The generator of table source: the built-in templates, a formatter, and settings. -/

namespace Tablewright

/-- A generator with the settings it was made from. -/
structure TableGenerator where
  generator : Generator
  settings : Settings

namespace TableGenerator

/-- The place of the one shelf that a generator's templates stand on. -/
def ownShelf : Nat := 0

/-- The built-in templates with further ones, and the shelves they stand on. -/
def registry (extra : Sources) : Shelves × Traced RegistryFault Registry :=
  let (shelves, builtIn) := Registry.ofSources [[]] ownShelf Target.builtIn
  match extra, builtIn.result with
  | [], _ | _, .error _ => (shelves, builtIn)
  | _, .ok base =>
    let (shelves, extended) := base.extended shelves ownShelf extra
    (shelves, builtIn.andThen fun _ => extended)

/-- What is reported of a generator that is being made. -/
def creationMessage (settings : Settings) (registry : Registry) : String :=
  "Creating Go generator (package=" ++ settings.packageName.inMessage ++ ", templates=" ++
    Text.joined ", " registry.names ++ ")"

/-- Makes a generator; without a formatter of its own it runs the command of its settings. -/
def create (host : Host) (settings : Settings) (formatter : Option Formatter) (extra : Sources) :
    Traced RegistryFault TableGenerator :=
  let (shelves, templates) := registry extra
  do
    let registry ← templates
    Traced.report .debug .target (creationMessage settings registry)
    -- The command of the settings is looked at only when there is source to be formatted.
    let formatter := formatter.getD (Formatter.command host settings.formatCommand)
    return ⟨⟨registry, { formatter }, shelves⟩, settings⟩

/-- Makes a generator from settings in either form; they are loaded before templates compile. -/
def createGiven (host : Host) (given : GivenSettings) (formatter : Option Formatter)
    (extra : Sources) : Except SettingsFault (Traced RegistryFault TableGenerator) := do
  return create host (← given.load) formatter extra

/-- The description of a table with the package and the imports of the settings. -/
def describe (maker : TableGenerator) (tableName columns : Value) : Except Fault TableData := do
  let items ← columns.elements
  let imports ← maker.settings.imports.elements
  return ⟨tableName, .list items, maker.settings.packageName, .list imports⟩

/-- The sources of the targets of the settings. -/
def generateConfigured (maker : TableGenerator) (subject : Subject) :
    Traced GenerationFault (List (String × ByteArray)) :=
  maker.generator.generateAll maker.settings.targets subject

/-- Reports warnings one after another. -/
def reportWarnings : List String → Traced GenerationFault Unit
  | [] => return ()
  | warning :: rest => do
    Traced.report .warning .package warning
    reportWarnings rest

/-- The targets to generate: those given, or those of the settings when none are. -/
def chosenTargets (maker : TableGenerator) (targets : Value) : Except Fault Value := do
  return if ← targets.truth then targets else maker.settings.targets

/-- The sources for one table; what is doubtful about it is reported and stops nothing. -/
def generateTable (maker : TableGenerator) (tableName columns targets : Value) :
    Traced GenerationFault (List (String × ByteArray)) := do
  let data ← checked (maker.describe tableName columns)
  let subject := Subject.table data
  let context ← checked subject.context
  let warnings ← checked (Target.warnings context)
  -- Warnings are reported before any target is looked up, and stop nothing.
  reportWarnings warnings
  let chosen ← checked (maker.chosenTargets targets)
  maker.generator.generateAll chosen subject

end TableGenerator

end Tablewright
