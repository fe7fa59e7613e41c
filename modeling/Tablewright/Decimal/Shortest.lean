import Tablewright.Decimal.Binary

/-! The fewest decimal digits that read back as a floating-point number, the nearest of those. -/

namespace Tablewright.Decimal

/-- The number `digits * 10 ^ exponent`. -/
structure Digits where
  digits : Nat
  exponent : Int
  deriving DecidableEq, Repr

/-- A grid of decimals around a number, in quarters of the number's own last place. -/
structure Grid where
  /-- The number in grid units is `4 * mantissa * scale / unit`. -/
  scale : Nat
  unit : Nat

/-- The grid of multiples of `10 ^ power` around numbers with the last place `2 ^ exponent`. -/
def Grid.of (exponent power : Int) : Grid :=
  let (twoUp, twoDown) := twoPower (exponent - 2)
  let (tenUp, tenDown) := tenPower power
  ⟨twoUp * tenDown, twoDown * tenUp⟩

/-- The nearest multiple on a grid that still reads back as the number, when one does. -/
def Grid.nearest? (grid : Grid) (mantissa : Nat) (level : Bool) : Option Nat :=
  -- The reals that round to the number reach half a place up and half the lower gap down, ends
  -- included when the mantissa is even; only the two neighbours on the grid can lie among them.
  let value := 4 * mantissa * grid.scale
  let below := value / grid.unit
  let rest := value % grid.unit
  let down := (if level then 2 else 1) * grid.scale
  let up := 2 * grid.scale
  let within := fun distance reach =>
    if mantissa % 2 = 0 then decide (distance ≤ reach) else decide (distance < reach)
  let lowHit := within rest down
  let highHit := within (grid.unit - rest) up
  if lowHit && highHit then
    if 2 * rest < grid.unit then some below
    else if grid.unit < 2 * rest then some (below + 1)
    else some (if below % 2 = 0 then below else below + 1)
  else if lowHit then some below
  else if highHit then some (below + 1)
  else none

/-- The least power of ten above a positive number. -/
def decimalWidth (mantissa : Nat) (exponent : Int) : Int :=
  -- The binary length gives the power up to one, and a comparison settles it.
  let guess := (((mantissa.log2 : Int) + exponent) * 30103) / 100000
  let (twoUp, twoDown) := twoPower exponent
  let below := fun (power : Int) =>
    let (tenUp, tenDown) := tenPower power
    decide (mantissa * twoUp * tenDown < tenUp * twoDown)
  if below guess then guess else if below (guess + 1) then guess + 1 else guess + 2

/-- Tries grids of `count` digits and more, `fuel` of them. -/
def shortestFrom (mantissa : Nat) (exponent : Int) (level : Bool) (width : Int) :
    Nat → Nat → Digits
  -- Seventeen digits always suffice, so the last grid has a hit.
  | 0, count =>
    ⟨(Grid.of exponent (width - count)).nearest? mantissa level |>.getD 0, width - count⟩
  | fuel + 1, count =>
    match (Grid.of exponent (width - count)).nearest? mantissa level with
    | some digits => ⟨digits, width - count⟩
    | none => shortestFrom mantissa exponent level width fuel (count + 1)

/-- The fewest digits of a positive number `mantissa * 2 ^ exponent`. -/
def shortest (mantissa : Nat) (exponent : Int) (level : Bool) : Digits :=
  shortestFrom mantissa exponent level (decimalWidth mantissa exponent) 16 1

end Tablewright.Decimal
