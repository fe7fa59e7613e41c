import Tablewright.Value.Basic

/-! Values kept in cells, so that two values can hold one and the same list. -/

namespace Tablewright

/-- A value one level deep: what it holds may be kept elsewhere. -/
inductive Shape (α : Type) where
  | leaf (value : Value)
  | list (items : List α)
  | record (entries : List (String × α))

/-- The kind of a value one level deep. -/
def Shape.kind : Shape α → Kind
  | .leaf value => value.kind
  | .list _ => .list
  | .record _ => .record

/-- A plain value one level deep. -/
def Value.shape : Value → Shape Value
  | .list items => .list items
  | .record entries => .record entries
  | value => .leaf value

/-- The plain value of a level. -/
def Shape.value : Shape Value → Value
  | .leaf value => value
  | .list items => .list items
  | .record entries => .record entries

/-- A value that is held: a leaf itself, a list or a record by its cell. -/
inductive Held where
  | leaf (value : Value)
  | cell (address : Nat)
  deriving Inhabited

/-- Lists and records one level deep, each at its address. -/
abbrev Cells := List (Shape Held)

namespace Held

/-- A held value one level deep. -/
def shape (cells : Cells) : Held → Shape Held
  | .leaf value => .leaf value
  | .cell address => cells[address]?.getD (.leaf .null)

/-- Keeps a value one level deep: a leaf as it is, all else in a cell of its own. -/
def allocate (shape : Shape Held) : StateM Cells Held := do
  match shape with
  | .leaf value => return .leaf value
  | shape =>
    let cells ← get
    set (cells ++ [shape])
    return .cell cells.length

mutual

/-- Keeps a plain value with all that it holds. -/
def ofValue : Value → StateM Cells Held
  | .list items => do allocate (.list (← ofValues items))
  | .record entries => do allocate (.record (← ofEntries entries))
  | value => return .leaf value

/-- Keeps plain values in a row. -/
def ofValues : List Value → StateM Cells (List Held)
  | [] => return []
  | value :: rest => do
    let held ← ofValue value
    return held :: (← ofValues rest)

/-- Keeps plain values under their keys. -/
def ofEntries : List (String × Value) → StateM Cells (List (String × Held))
  | [] => return []
  | (key, value) :: rest => do
    let held ← ofValue value
    return (key, held) :: (← ofEntries rest)

end

/-- The plain value of a held one that nests no deeper than `depth`. -/
def valueWithin (cells : Cells) : Nat → Held → Value
  | 0, _ => .null
  -- Cells that do not go round nest less deep than there are cells.
  | depth + 1, held =>
    match held.shape cells with
    | .leaf value => value
    | .list items => .list (items.map (valueWithin cells depth))
    | .record entries =>
      .record (entries.map fun entry => (entry.1, valueWithin cells depth entry.2))

/-- The plain value of a held one. -/
def value (cells : Cells) (held : Held) : Value :=
  -- No cell holds itself, so values nest no deeper than there are cells.
  held.valueWithin cells (cells.length + 1)

/-- Puts a list or a record in place of the one in a cell. -/
def overwrite (cells : Cells) (shape : Shape Held) : Held → Cells
  | .leaf _ => cells
  | .cell address => cells.set address shape

end Held

/-- Values under names, kept in cells. -/
structure Holding where
  entries : List (String × Held)
  cells : Cells

/-- Keeps the values of a context, each in cells of its own. -/
def Holding.ofContext (context : Context) : Holding :=
  let (entries, cells) := (Held.ofEntries context).run []
  ⟨entries, cells⟩

end Tablewright
