import Tablewright.Decimal.Shortest

/-! The written form of a floating-point number, and the number a decimal stands for. -/

namespace Tablewright.Decimal

/-- The fewest digits, positional from ten thousandths up to below ten to the sixteenth. -/
structure NumberFormat where
  /-- The least power of ten of a leading digit that is written positionally. -/
  leastPositional : Int
  /-- The least power of ten of a leading digit that is no longer written positionally. -/
  pastPositional : Int
  /-- The least count of digits in a written exponent. -/
  exponentWidth : Nat

/-- The format of every printed number. -/
def numberFormat : NumberFormat := ⟨-4, 16, 2⟩

/-- An exponent with its sign and at least the format's count of digits. -/
def NumberFormat.exponentText (format : NumberFormat) (power : Int) : String :=
  let digits := toString power.natAbs
  let zeros := String.ofList (List.replicate (format.exponentWidth - digits.length) '0')
  (if power < 0 then "e-" else "e+") ++ zeros ++ digits

/-- Digits without the zeros at their end, one digit at least. -/
def significant (digits : Nat) : List Char :=
  let shown := (Nat.toDigits 10 digits).reverse.dropWhile (· == '0')
  if shown.isEmpty then ['0'] else shown.reverse

/-- A positive decimal as text. -/
def NumberFormat.text (format : NumberFormat) (number : Digits) : String :=
  -- `power` is the place of the leading digit.
  let length := (Nat.toDigits 10 number.digits).length
  let power := number.exponent + length - 1
  let shown := significant number.digits
  if power < format.leastPositional ∨ format.pastPositional ≤ power then
    let fraction := if shown.length = 1 then [] else '.' :: shown.drop 1
    String.ofList (shown.take 1 ++ fraction) ++ format.exponentText power
  else if power < 0 then
    "0." ++ String.ofList (List.replicate ((-power).toNat - 1) '0' ++ shown)
  else
    let whole := power.toNat + 1
    let padded := shown ++ List.replicate (whole - shown.length) '0'
    let fraction := padded.drop whole
    String.ofList (padded.take whole) ++ "." ++
      (if fraction.isEmpty then "0" else String.ofList fraction)

/-- A floating-point number as text. -/
def written (x : Float) : String :=
  match Binary.ofFloat x with
  | .notANumber => "nan"
  | .infinite negative => if negative then "-inf" else "inf"
  | .finite negative mantissa exponent level =>
    let sign := if negative then "-" else ""
    -- Zero keeps its sign, and has no shortest digits to look for.
    if mantissa = 0 then sign ++ "0.0"
    else sign ++ numberFormat.text (shortest mantissa exponent level)

/-- The floating-point number nearest to `digits * 10 ^ exponent`. -/
def nearest (digits : Nat) (exponent : Int) : Float :=
  -- Far outside the range of the type the answer is zero or infinity without any arithmetic.
  let reach := ((Nat.toDigits 10 digits).length : Int) + exponent
  if digits = 0 ∨ reach < -400 then 0.0
  else if 400 < reach then 1.0 / 0.0
  else Float.ofScientific digits (exponent < 0) exponent.natAbs

end Tablewright.Decimal
