/-! A binary floating-point number taken apart into a sign, a whole number and a power of two. -/

namespace Tablewright.Decimal

/-- What a floating-point number stands for. -/
inductive Binary where
  | notANumber
  | infinite (negative : Bool)
  /-- The number `mantissa * 2 ^ exponent`; `level` says that both gaps beside it are equal. -/
  | finite (negative : Bool) (mantissa : Nat) (exponent : Int) (level : Bool)
  deriving DecidableEq, Repr

/-- The count of fractions that 52 bits tell apart. -/
def fractions : Nat := 0x10000000000000

/-- Takes a floating-point number apart. -/
def Binary.ofFloat (x : Float) : Binary :=
  -- Bit 63 is the sign, the next eleven bits the exponent, and 52 bits the fraction.
  let bits := x.toBits.toNat
  let negative := bits >>> 63 = 1
  let exponent := (bits >>> 52) % 2048
  let fraction := bits % fractions
  if exponent = 2047 then
    if fraction = 0 then .infinite negative else .notANumber
  else if exponent = 0 then .finite negative fraction (-1074) true
  else
    .finite negative (fractions + fraction) ((exponent : Int) - 1075) (fraction ≠ 0 ∨ exponent = 1)

/-- A power of two as numerator and denominator. -/
def twoPower (exponent : Int) : Nat × Nat :=
  match exponent with
  | .ofNat n => (1 <<< n, 1)
  | .negSucc n => (1, 1 <<< (n + 1))

/-- A power of ten as numerator and denominator. -/
def tenPower (exponent : Int) : Nat × Nat :=
  match exponent with
  | .ofNat n => (Nat.pow 10 n, 1)
  | .negSucc n => (1, Nat.pow 10 (n + 1))

end Tablewright.Decimal
