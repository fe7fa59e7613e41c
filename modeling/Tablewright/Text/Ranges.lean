/-! Classes and case maps of code points, kept as increasing ranges and as evenly spaced runs. -/

namespace Tablewright.Text

/-- A class of code points as increasing closed ranges. -/
abbrev RangeTable := List (Nat × Nat)

/-- A code point belongs to a class when one of its ranges holds it. -/
def RangeTable.contains : RangeTable → Nat → Bool
  -- The ranges increase, so the search ends at the first one that starts above the code point.
  | [], _ => false
  | (first, last) :: rest, code =>
    if code < first then false else if code ≤ last then true else contains rest code

/-- Code points at one distance from each other whose images lie at the same distances. -/
structure CaseRun where
  /-- The first code point of the run. -/
  first : Nat
  /-- The last code point of the run. -/
  last : Nat
  /-- The distance between neighbours. -/
  step : Nat
  /-- The image of the first code point. -/
  image : Nat

/-- The image of a code point under increasing runs, when a run holds it. -/
def CaseRun.find? : List CaseRun → Nat → Option Nat
  -- The runs increase, so the search ends at the first one that starts above the code point.
  | [], _ => none
  | run :: rest, code =>
    if code < run.first then none
    else if code ≤ run.last ∧ (code - run.first) % run.step = 0 then
      some (run.image + (code - run.first))
    else find? rest code

end Tablewright.Text
