import Tablewright.Value.Same

/-! Values as a set, and values in increasing order. -/

namespace Tablewright

/-- Each value once, at the place it first came in. -/
def distinctFrom (seen : List Value) : List Value → Except Fault (List Value)
  | [] => pure seen.reverse
  | value :: rest => do
    let known ← value.memberOf seen
    distinctFrom (if known then seen else value :: seen) rest

/-- The members of a list taken as a set, in the order they first came in. -/
def distinct (values : List Value) : Except Fault (List Value) := distinctFrom [] values

/-- The order of two values: texts by code points, numbers by size, and nothing else. -/
def Value.less? : Value → Value → Option Bool
  | .text s, .text t => some (decide (s < t))
  | a, b =>
    match a.number?, b.number? with
    | some n, some n' => some (n.less n')
    | _, _ => none

/-- Puts a value in front of the first one that is not less. -/
def placeInOrder (value : Value) : List Value → Except Fault (List Value)
  | [] => pure [value]
  | other :: rest =>
    match other.less? value with
    | none => throw (.notOrdered value.kind other.kind)
    | some true => do return other :: (← placeInOrder value rest)
    | some false => pure (value :: other :: rest)

/-- Values in increasing order. -/
def increasing (values : List Value) : Except Fault (List Value) :=
  values.foldlM (fun placed value => placeInOrder value placed) []

end Tablewright
