import Tablewright.Settings.Basic
import Tablewright.Value.Cells
import Tablewright.Value.Same

/-! Places that values are kept in, and the entries of what is kept there. -/

namespace Tablewright

/-- A place to keep values in: how they look one level deep, and how a new one is kept. -/
structure Keeper (m : Type → Type) (α : Type) where
  view : α → m (Shape α)
  keep : Shape α → m α

/-- Values that hold what they hold themselves. -/
def Keeper.plain : Keeper Id Value := ⟨Value.shape, Shape.value⟩

/-- Values that hold what they hold by its cell. -/
def Held.keeper : Keeper (StateM Cells) Held :=
  ⟨fun held => do return held.shape (← get), Held.allocate⟩

/-- A key as the text of an entry. -/
def Value.keyText : Value → String
  | .text s => s
  | .null => "null"
  | .bool b => if b then "true" else "false"
  | value => value.shown

section

variable {m : Type → Type} {α : Type} [Monad m] (keeper : Keeper m α)

/-- The key that a kept value stands for. -/
def Keeper.key (item : α) : ExceptT EntryFault m String := do
  match ← keeper.view item with
  | .leaf value =>
    match value.lookupKey with
    | .ok _ => return value.keyText
    | .error cause => throw (.value cause)
  | shape => throw (.value (.notHashable shape.kind))

/-- The entry of a text of two characters. -/
def Keeper.charPair (index : Nat) (cs : List Char) : ExceptT EntryFault m (String × α) := do
  match cs with
  | [key, value] =>
    return (String.singleton key, ← keeper.keep (.leaf (.text (String.singleton value))))
  | _ => throw (.noPair index cs.length)

/-- The entry that the item at a place stands for. -/
def Keeper.pair (index : Nat) (item : α) : ExceptT EntryFault m (String × α) := do
  match ← keeper.view item with
  | .list [key, value] => return (← keeper.key key, value)
  | .list items => throw (.noPair index items.length)
  -- A record is gone through by its keys, so two of them make a pair.
  | .record [(key, _), (other, _)] => return (key, ← keeper.keep (.leaf (.text other)))
  | .record entries => throw (.noPair index entries.length)
  | .leaf (.text s) => keeper.charPair index s.toList
  | .leaf _ => throw (.noSequence index)

/-- The entries that items stand for; of equal keys the last one wins. -/
def Keeper.pairs (items : List α) : ExceptT EntryFault m (List (String × α)) := do
  let added ← items.zipIdx.mapM fun (item, index) => keeper.pair index item
  return assignAll [] added

/-- The entries of a kept value: its own, or those that its items stand for. -/
def Keeper.entries (value : α) : ExceptT EntryFault m (List (String × α)) := do
  match ← keeper.view value with
  | .record entries => return entries
  | .list items => keeper.pairs items
  -- A text is gone through by characters, each of which is too short for a pair.
  | .leaf (.text s) =>
    match s.toList with
    | [] => return []
    | _ => throw (.noPair 0 1)
  | .leaf value => throw (.value (.notIterable value.kind))

end

end Tablewright
