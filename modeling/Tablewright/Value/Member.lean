import Tablewright.Value.Written
import Tablewright.Value.Access

/-! Members by name and elements by key, where what is not there is a value of its own.

Members are data: the keys of a record, the fields of a column, and what a loop tells. The methods
that the host language gives to values of each kind are no members; those that templates can call
on lists and records are told in `Template.Methods`. -/

namespace Tablewright

/-- What a loop tells about where it stands. -/
def LoopState.member? (state : LoopState) : String → Option Value
  | "index" => some (.int (state.done + 1))
  | "index0" => some (.int state.done)
  | "first" => some (.bool (state.done == 0))
  | "last" => some (.bool (state.done + 1 == state.length))
  | "length" => some (.int state.length)
  | _ => none

/-- A part of a value that goes with its kind, and not with the keys it holds. -/
def Value.ownMember? (name : String) : Value → Option Value
  | .column columnName type nullable => columnField? columnName type nullable name
  | .loop state => state.member? name
  | _ => none

/-- The member of a name; a record's own keys are its members. -/
def Value.member (name : String) (owner : Value) : Except Fault Value :=
  match owner with
  | .missing what => throw (.missing what)
  | .record entries => pure ((lookup? name entries).getD (.missing (.member .record name)))
  | value => pure ((value.ownMember? name).getD (.missing (.member value.kind name)))

/-- The whole number that a key counts as. -/
def Value.index? : Value → Option Int
  | .int n => some n
  | .bool b => some (if b then 1 else 0)
  | _ => none

/-- The item at an index, which counts from the end when it is negative. -/
def itemAt? (items : List α) (index : Int) : Option α :=
  match if index < 0 then index + items.length else index with
  | .ofNat n => items[n]?
  | .negSucc _ => none

/-- The element under a key, for keys that the kind of value knows. -/
def Value.element? (owner key : Value) : Option Value :=
  match owner with
  -- Texts are gone into by code points.
  | .text s => key.index?.bind (itemAt? (s.toList.map fun c => .text (String.singleton c)))
  | .list items => key.index?.bind (itemAt? items)
  | .record entries =>
    match key with
    | .text name => lookup? name entries
    | _ => none
  | _ => none

/-- What stands for an element that is not there: a member of that name, or a missing value. -/
def Value.elementDefault (owner key : Value) : Value :=
  match key with
  | .text name => (owner.ownMember? name).getD (.missing (.member owner.kind name))
  | _ => .missing (.element owner.kind key.shown)

/-- The element under a key. -/
def Value.element (owner key : Value) : Except Fault Value :=
  match owner, key with
  | .missing what, _ => throw (.missing what)
  -- To find a key among others, the key itself has to be there.
  | .record _, .missing what => throw (.missing what)
  | owner, key => pure ((owner.element? key).getD (owner.elementDefault key))

end Tablewright
