import Tablewright.Value.Written

/-! What can be taken out of a value: truth, elements, length, text and members. -/

namespace Tablewright

/-- The truth of a value: false, zero and whatever is empty are untrue. -/
def Value.truth : Value → Except Fault Bool
  | .null => pure false
  | .bool b => pure b
  | .int n => pure (n != 0)
  | .float x => pure (x != 0)
  | .text s => pure (s != "")
  | .list items => pure !items.isEmpty
  | .record entries => pure !entries.isEmpty
  -- A missing value is neither true nor untrue.
  | .missing what => throw (.missing what)
  | .column .. | .helper _ | .loop _ => pure true

/-- The elements of a value: code points of a text, items of a list, keys of a record. -/
def Value.elements : Value → Except Fault (List Value)
  | .text s => pure (s.toList.map fun c => .text (String.singleton c))
  | .list items => pure items
  | .record entries => pure ((keysOf entries).map .text)
  | .missing what => throw (.missing what)
  | value => throw (.notIterable value.kind)

/-- The count of elements. -/
def Value.length : Value → Except Fault Nat
  | .text s => pure s.length
  | .list items => pure items.length
  | .record entries => pure entries.length
  | .missing what => throw (.missing what)
  | value => throw (.noLength value.kind)

/-- The text that a value is; `member` names what only texts have and is asked for. -/
def Value.asText (member : String) : Value → Except Fault String
  | .text s => pure s
  | .missing what => throw (.missing what)
  | value => throw (.noMember value.kind member)

/-- A text followed by another value, which has to be a text. -/
def appendText (s : String) : Value → Except Fault String
  | .text t => pure (s ++ t)
  | .missing what => throw (.missing what)
  | value => throw (.notAppendable .text value.kind)

/-- A value, which has to be a text, followed by a text. -/
def Value.followedBy (t : String) : Value → Except Fault String
  | .text s => pure (s ++ t)
  | .missing what => throw (.missing what)
  | value => throw (.notAppendable value.kind .text)

/-- The fields of a column by name. -/
def columnField? (name type nullable : Value) : String → Option Value
  | "name" => some name
  | "type" => some type
  | "is_nullable" => some nullable
  | _ => none

/-- The name of a column. -/
def Value.columnName : Value → Except Fault Value
  | .column name _ _ => pure name
  | .missing what => throw (.missing what)
  | value => throw (.noMember value.kind "name")

/-- A part of a column given as a column or as a record, or a default. -/
def Value.columnPart (column : Value) (key : String) (default : Value) : Value :=
  match column with
  | .record entries => (lookup? key entries).getD default
  | .column name type nullable => (columnField? name type nullable key).getD default
  | _ => default

/-- A value as one of several texts to be joined; `index` is its place among them. -/
def Value.asJoined (index : Nat) : Value → Except Fault String
  | .text s => pure s
  | .missing what => throw (.missing what)
  | value => throw (.notJoinable index value.kind)

/-- The texts among values to be joined, from the place `index` on. -/
def joinedTexts (index : Nat) : List Value → Except Fault (List String)
  | [] => pure []
  | value :: rest => do
    let s ← value.asJoined index
    let others ← joinedTexts (index + 1) rest
    return s :: others

end Tablewright
