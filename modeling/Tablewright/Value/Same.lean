import Tablewright.Value.Number

/-! Equality of values, and which values can be looked up in a set. -/

namespace Tablewright

/-- Equality of two values that hold no other values. -/
def Value.sameLeaf : Value → Value → Bool
  -- Numbers of every kind compare by what they count; all else compares within its kind.
  | .null, .null => true
  | .text s, .text t => s = t
  | .helper h, .helper h' => h = h'
  | .loop s, .loop s' => s = s'
  | .missing m, .missing m' => m = m'
  | a, b =>
    match a.number?, b.number? with
    | some n, some n' => n.same n'
    | _, _ => false

mutual

/-- Equality of values: numbers by size, collections by their members. -/
def Value.same : Value → Value → Bool
  | .list items, .list items' => sameItems items items'
  | .record entries, .record entries' =>
    entries.length = entries'.length && sameEntries entries entries'
  | .column name type nullable, .column name' type' nullable' =>
    name.same name' && type.same type' && nullable.same nullable'
  | a, b => a.sameLeaf b

/-- Equality of lists, place by place. -/
def sameItems : List Value → List Value → Bool
  | [], [] => true
  | a :: rest, b :: rest' => a.same b && sameItems rest rest'
  | _, _ => false

/-- Every entry has an equal one under the same key. -/
def sameEntries : List (String × Value) → List (String × Value) → Bool
  | [], _ => true
  | (key, a) :: rest, entries =>
    (match lookup? key entries with
      | some b => a.same b
      | none => false) && sameEntries rest entries

end

/-- Whether a value can be looked up in a set; collections cannot, nor a column that holds one. -/
def Value.lookupKey : Value → Except Fault Unit
  | .list _ => throw (.notHashable .list)
  | .record _ => throw (.notHashable .record)
  | .missing what => throw (.missing what)
  -- A column is looked up by its parts.
  | .column name type nullable => do
    name.lookupKey
    type.lookupKey
    nullable.lookupKey
  | _ => pure ()

/-- Membership in a list taken as a set. -/
def Value.memberOf (value : Value) (values : List Value) : Except Fault Bool := do
  value.lookupKey
  return values.any fun other => other.same value

end Tablewright
