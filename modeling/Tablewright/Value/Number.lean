import Tablewright.Decimal.Binary
import Tablewright.Value.Basic

/-! Numbers as exact fractions, so that whole and floating-point ones compare without rounding. -/

namespace Tablewright

/-- A number beyond rounding: infinite, or a fraction with a positive denominator. -/
inductive Exact where
  | below
  | fraction (numerator : Int) (denominator : Nat)
  | above
  deriving DecidableEq, Repr

/-- The exact number of a floating-point one, when it is a number. -/
def Exact.ofBinary? : Decimal.Binary → Option Exact
  | .notANumber => none
  | .infinite negative => some (if negative then .below else .above)
  | .finite negative mantissa exponent _ =>
    let (up, down) := Decimal.twoPower exponent
    let size : Int := mantissa * up
    some (.fraction (if negative then -size else size) down)

/-- The number that a value is; truth values count as zero and one. -/
def Value.number? : Value → Option Exact
  | .bool b => some (.fraction (if b then 1 else 0) 1)
  | .int n => some (.fraction n 1)
  | .float x => Exact.ofBinary? (Decimal.Binary.ofFloat x)
  | _ => none

/-- Equal numbers, whatever kinds they were written in. -/
def Exact.same : Exact → Exact → Bool
  | .below, .below | .above, .above => true
  | .fraction n d, .fraction n' d' => n * d' = n' * d
  | _, _ => false

/-- The order of numbers. -/
def Exact.less : Exact → Exact → Bool
  | .below, .below => false
  | .below, _ => true
  | .above, _ => false
  | .fraction _ _, .below => false
  | .fraction n d, .fraction n' d' => n * d' < n' * d
  | .fraction _ _, .above => true

end Tablewright
