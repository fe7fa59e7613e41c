import Tablewright.Log.Traced
import Tablewright.Template.Shelf
import Tablewright.Text.Basic
import Tablewright.Value.Same

/-! Collections of compiled templates by file name, which never change once they are built. -/

namespace Tablewright

/-- Why a registry cannot be built. -/
inductive RegistryFault where
  /-- Two templates go by these file names. -/
  | duplicate (files : List String)
  /-- The source of a file makes no template. -/
  | uncompilable (file : String) (cause : Template.CompileFault)
  deriving DecidableEq, Repr

/-- What is said of a registry that cannot be built. -/
def RegistryFault.message : RegistryFault → String
  | .duplicate files => "Duplicate template name: " ++ Text.joined ", " files
  | .uncompilable file cause => "Failed to compile template " ++ file ++ ": " ++ cause.message

/-- Templates under distinct file names, in the order they came in. -/
structure Registry where
  entries : List (String × Template)

/-- Sources under distinct names, in order; file names may still fall together. -/
abbrev Sources := List (String × String)

/-- Compiles a template of a shelf, and says which file fails. -/
def compileTemplate (shelves : Shelves) (place : Nat) (name : String) :
    Except RegistryFault Template :=
  (shelves.compile place name).mapError (.uncompilable (Template.fileName name))

namespace Registry

/-- A registry of named templates, each put under its file name. -/
def ofEntries (templates : List (String × Template)) : Except RegistryFault Registry := do
  let entries ← templates.foldlM (fun entries (name, template) =>
    let file := Template.fileName name
    if (keysOf entries).contains file then throw (.duplicate [file])
    else pure (entries ++ [(file, template)])) []
  return ⟨entries⟩

/-- The file names, in increasing order. -/
def names (registry : Registry) : List String := Text.sorted (keysOf registry.entries)

/-- The template under a file name. -/
def get? (registry : Registry) (file : String) : Option Template := lookup? file registry.entries

/-- The template under a file name that is still unchecked; only texts name files. -/
def find? (registry : Registry) (file : Value) : Except Fault (Option Template) := do
  file.lookupKey
  match file with
  | .text s => return registry.get? s
  | _ => return none

/-- Shelves and compiled templates after some of the sources, or the fault that stopped them. -/
structure Compiling where
  shelves : Shelves
  outcome : Except RegistryFault (List (String × Template))

/-- Puts a source on a shelf and compiles it; after a fault nothing more is done. -/
def Compiling.add (place : Nat) (state : Compiling) (entry : String × String) : Compiling :=
  match state.outcome with
  | .error _ => state
  | .ok compiled =>
    let file := Template.fileName entry.1
    if (keysOf compiled).contains file then { state with outcome := .error (.duplicate [file]) }
    else
      -- The source stays on the shelf even when it makes no template.
      let shelves := state.shelves.put place file entry.2
      ⟨shelves, (compileTemplate shelves place file).map fun template =>
        compiled ++ [(file, template)]⟩

/-- What is reported when templates have been compiled. -/
def compiledMessage (count : Nat) : String := "Compiled " ++ toString count ++ " templates"

/-- A registry of sources, all put on one shelf, and the shelves as they are afterwards. -/
def ofSources (shelves : Shelves) (place : Nat) (sources : Sources) :
    Shelves × Traced RegistryFault Registry :=
  let state := sources.foldl (Compiling.add place) ⟨shelves, .ok []⟩
  (state.shelves, do
    let compiled ← state.outcome
    Traced.report .debug .templates (compiledMessage compiled.length)
    ofEntries compiled)

/-- File names of sources that a registry already has, in increasing order. -/
def clashes (registry : Registry) (sources : Sources) : List String :=
  (Text.sorted ((keysOf sources).map Template.fileName).eraseDups).filter
    fun file => (keysOf registry.entries).contains file

/-- A registry with further sources, which must not clash with its templates. -/
def extended (registry : Registry) (shelves : Shelves) (place : Nat) (sources : Sources) :
    Shelves × Traced RegistryFault Registry :=
  -- Clashes are found before any source is put on the shelf.
  match registry.clashes sources with
  | [] =>
    let (shelves, added) := ofSources shelves place sources
    (shelves, do ofEntries (registry.entries ++ (← added).entries))
  | files => (shelves, .fail (.duplicate files))

/-- Why a name has no template. -/
inductive ResolveFault where
  | value (cause : Fault)
  /-- Nothing goes by this name. -/
  | notFound (name : String)
  deriving DecidableEq, Repr

/-- What is said of a name without a template. -/
def ResolveFault.message : ResolveFault → String
  | .value cause => cause.message
  | .notFound name => "Unable to find the template: " ++ Template.fileName name

/-- The template of a name, with or without the suffix of file names. -/
def resolve (registry : Registry) (name : Value) : Traced ResolveFault Template := do
  let file ← Traced.ofExcept ((Template.fileNameOf name).mapError ResolveFault.value)
  match registry.get? file with
  | some template => return template
  | none =>
    Traced.report .debug .templates ("Template lookup failed: " ++ name.inMessage)
    Traced.fail (.notFound name.inMessage)

end Registry

end Tablewright
