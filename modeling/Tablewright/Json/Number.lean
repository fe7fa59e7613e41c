import Tablewright.Decimal.Written
import Tablewright.Json.Text
import Tablewright.Value.Basic

/-! Numbers of JSON: whole ones, and floating-point ones where a point or an exponent stands. -/

namespace Tablewright.Json

/-- A decimal digit. -/
def isDigit (c : Char) : Bool := '0' ≤ c && c ≤ '9'

/-- The number that digits spell. -/
def digitsValue (digits : List Char) : Nat :=
  digits.foldl (fun value c => value * 10 + (c.toNat - '0'.toNat)) 0

/-- Reads the digits before a point; a leading zero stands alone. -/
def readWhole? : List Char → Option (List Char × List Char)
  | '0' :: rest => some (['0'], rest)
  | c :: rest =>
    if isDigit c then some ((c :: rest).takeWhile isDigit, (c :: rest).dropWhile isDigit) else none
  | [] => none

/-- Reads a point with the digits behind it, or nothing. -/
def readFraction : List Char → List Char × List Char
  | '.' :: rest =>
    let digits := rest.takeWhile isDigit
    if digits.isEmpty then ([], '.' :: rest) else (digits, rest.dropWhile isDigit)
  | rest => ([], rest)

/-- Reads the sign of an exponent: whether it is negative, and what follows. -/
def readSign : List Char → Bool × List Char
  | '-' :: rest => (true, rest)
  | '+' :: rest => (false, rest)
  | rest => (false, rest)

/-- Reads an exponent, or nothing where digits are lacking. -/
def readExponent (cs : List Char) : Option Int × List Char :=
  match cs with
  | c :: rest =>
    if c = 'e' ∨ c = 'E' then
      let (negative, behind) := readSign rest
      let digits := behind.takeWhile isDigit
      -- Without digits the letter is no part of the number, and is left to what follows.
      if digits.isEmpty then (none, cs)
      else
        let size : Int := digitsValue digits
        (some (if negative then -size else size), behind.dropWhile isDigit)
    else (none, cs)
  | [] => (none, cs)

/-- A floating-point number by its digits and its power of ten. -/
def floatOf (negative : Bool) (digits : List Char) (exponent : Int) : Value :=
  let size := Decimal.nearest (digitsValue digits) exponent
  .float (if negative then -size else size)

/-- A whole number by its digits. -/
def intOf (negative : Bool) (digits : List Char) : Except Fault Value :=
  if mostDigits < digits.length then throw (.longNumber digits.length)
  else
    let size : Int := digitsValue digits
    pure (.int (if negative then -size else size))

/-- Reads a number behind its sign; `start` is what is left at its beginning. -/
def readUnsigned (start : Nat) (negative : Bool) (cs : List Char) :
    Except Fault (Value × List Char) :=
  match readWhole? cs with
  | none => throw (.at .value start)
  | some (whole, rest) => do
    let (fraction, behind) := readFraction rest
    let (exponent, left) := readExponent behind
    -- A number is whole unless it is written with a fraction or an exponent.
    if fraction.isEmpty && exponent.isNone then return (← intOf negative whole, left)
    else
      let power := exponent.getD 0 - fraction.length
      return (floatOf negative (whole ++ fraction) power, left)

/-- Reads a number. -/
def readNumber (cs : List Char) : Except Fault (Value × List Char) :=
  match cs with
  | '-' :: rest => readUnsigned cs.length true rest
  | _ => readUnsigned cs.length false cs

end Tablewright.Json
