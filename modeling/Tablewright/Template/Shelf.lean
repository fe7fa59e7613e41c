import Tablewright.Template.Methods
import Tablewright.Template.Rendering

/-! Template sources on shelves, and the templates made of them. -/

namespace Tablewright.Template

/-- Ends the file name of every template. -/
def fileSuffix : String := ".tpl"

/-- The file name of a template: its name with the suffix, once. -/
def fileName (name : String) : String :=
  if fileSuffix.toList.isSuffixOf name.toList then name else name ++ fileSuffix

/-- The file name of a template whose name is still unchecked. -/
def fileNameOf (name : Value) : Except Fault String := do
  return fileName (← name.asText "endswith")

/-- Sources by file name, which templates may insert into each other. -/
abbrev Shelf := List (String × String)

/-- Puts a source on a shelf, in place of an older one under the same file name. -/
def Shelf.put (shelf : Shelf) (name source : String) : Shelf := assign (fileName name) source shelf

/-- The nodes of the source under a file name. -/
def Shelf.nodes (shelf : Shelf) (file : String) : Except CompileFault (List Node) :=
  match lookup? file shelf with
  | none => throw (.notAdded file)
  | some source => compileNodes source

/-- How deep templates may insert each other. -/
def insertDepth : Nat := 500

/-- The file that is asked for by a value, which has to be a text. -/
def insertedFile : Value → Except Fault String
  | .text file => pure file
  | .missing what => throw (.missing what)
  | value => throw (.notIterable value.kind)

/-- The name that a context must leave alone. -/
def reservedName : String := "self"

section

variable {m : Type → Type} {α : Type} [Monad m] [MonadLiftT (Except RunFault) m]
  (medium : Medium m α)

/-- Inserts the current sources of a shelf into each other, to a depth. -/
def Shelf.insertIn (shelf : Shelf) : Nat → Inserting m α
  | 0, _, _ => liftM (Except.error RunFault.endless : Except RunFault String)
  | depth + 1, file, scope => do
    let name ← run (insertedFile (← medium.look file))
    let nodes ← (shelf.nodes name).mapError RunFault.unusable
    let (text, _) ← renderNodesIn medium (shelf.insertIn depth) scope nodes
    return text

/-- The text of nodes among the values of a context, which hide the operations of their names. -/
def Shelf.textIn (shelf : Shelf) (nodes : List Node) (context : List (String × α)) : m String := do
  if (lookup? reservedName context).isSome then
    liftM (Except.error (RunFault.reservedName reservedName) : Except RunFault Unit)
  let scope := context ++ helpers.map (Prod.map id medium.leaf)
  let (text, _) ← renderNodesIn medium (shelf.insertIn medium insertDepth) scope nodes
  return text

end

/-- The text of nodes among the values of a context, each of which is kept in cells of its own. -/
def Shelf.text (shelf : Shelf) (nodes : List Node) (context : Context) :
    Except RunFault String :=
  let holding := Holding.ofContext context
  (shelf.textIn .held nodes holding.entries).run' holding.cells

end Tablewright.Template

namespace Tablewright

/-- All shelves; a shelf goes by its place among them. -/
abbrev Shelves := List Template.Shelf

/-- A template: its file name, its nodes, and the shelf that it inserts from. -/
structure Template where
  file : String
  nodes : List Template.Node
  shelf : Nat

/-- The shelf at a place, empty when there is none. -/
def Shelves.shelf (shelves : Shelves) (place : Nat) : Template.Shelf := shelves[place]?.getD []

/-- Puts a source on the shelf at a place. -/
def Shelves.put (shelves : Shelves) (place : Nat) (name source : String) : Shelves :=
  shelves.modify place fun shelf => shelf.put name source

/-- The template of a name whose source is on a shelf. -/
def Shelves.compile (shelves : Shelves) (place : Nat) (name : String) :
    Except Template.CompileFault Template := do
  let file := Template.fileName name
  return ⟨file, ← (shelves.shelf place).nodes file, place⟩

/-- The text of a template among held values, and what the template leaves of them. -/
def Template.textAmong (template : Template) (shelves : Shelves) (holding : Holding) :
    Except Template.RunFault (String × Holding) := do
  let acting := (shelves.shelf template.shelf).textIn .held template.nodes holding.entries
  let (text, left) ← acting.run holding.cells
  return (text, ⟨holding.entries, left⟩)

/-- The text of a template among the values of a context. -/
def Template.text (template : Template) (shelves : Shelves) (context : Context) :
    Except Template.RunFault String :=
  (shelves.shelf template.shelf).text template.nodes context

end Tablewright
