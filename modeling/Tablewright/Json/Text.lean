import Tablewright.Json.Fault

/-! Quoted texts of JSON.

Only texts that have bytes are modelled. Half of a pair that stands alone spells none of them; it is
replaced, where the host language would keep it. -/

namespace Tablewright.Json

/-- The value of a hexadecimal digit. -/
def hexValue? (c : Char) : Option Nat :=
  if '0' ≤ c ∧ c ≤ '9' then some (c.toNat - '0'.toNat)
  else if 'a' ≤ c ∧ c ≤ 'f' then some (c.toNat - 'a'.toNat + 10)
  else if 'A' ≤ c ∧ c ≤ 'F' then some (c.toNat - 'A'.toNat + 10)
  else none

/-- The number of four hexadecimal digits in front. -/
def fourDigits? : List Char → Option Nat
  | a :: b :: c :: d :: _ => do
    let front := (← hexValue? a) * 16 + (← hexValue? b)
    return (front * 16 + (← hexValue? c)) * 16 + (← hexValue? d)
  | _ => none

/-- The first half of a pair that spells a code point beyond the first plane. -/
def isHigh (code : Nat) : Bool := 0xD800 ≤ code && code < 0xDC00

/-- The second half of such a pair. -/
def isLow (code : Nat) : Bool := 0xDC00 ≤ code && code < 0xE000

/-- A code point by its number; a half without its partner is replaced, as no text has it. -/
def charOf (code : Nat) : Char :=
  if isHigh code || isLow code then Char.ofNat 0xFFFD else Char.ofNat code

/-- The code point that two halves spell. -/
def paired (high low : Nat) : Char :=
  Char.ofNat (0x10000 + (high - 0xD800) * 0x400 + (low - 0xDC00))

/-- The character of an escape letter. -/
def escapeLetter? : Char → Option Char
  | '"' => some '"'
  | '\\' => some '\\'
  | '/' => some '/'
  | 'b' => some '\x08'
  | 'f' => some '\x0c'
  | 'n' => some '\n'
  | 'r' => some '\r'
  | 't' => some '\t'
  | _ => none

/-- The second half of a pair, when one is spelled in front and the text goes on behind it. -/
def secondHalf? (cs : List Char) : Except Fault (Option Nat) :=
  match cs with
  | '\\' :: 'u' :: digits =>
    -- An escape at the very end is left for the next round to complain about.
    if digits.length ≤ 4 then pure none
    else
      match fourDigits? digits with
      | some code => pure (if isLow code then some code else none)
      | none => throw (.at .codeEscape (digits.length + 1))
  | _ => pure none

/-- Reads a code point behind the letter that announces one. -/
def readCode (cs : List Char) : Except Fault (Char × List Char) := do
  -- The place of the letter is blamed, and a text cannot end right behind the digits.
  let fault := Fault.at .codeEscape (cs.length + 1)
  if cs.length ≤ 4 then throw fault
  match fourDigits? cs with
  | none => throw fault
  | some code =>
    let rest := cs.drop 4
    if isHigh code then
      match ← secondHalf? rest with
      | some low => return (paired code low, rest.drop 6)
      | none => return (charOf code, rest)
    else return (charOf code, rest)

/-- Reads up to the closing quote; `start` is what is left at the opening one. -/
def readTextFrom (start : Nat) : Nat → List Char → Except Fault (List Char × List Char)
  | 0, _ | _, [] => throw (.at .unclosedText start)
  | fuel + 1, c :: rest =>
    if c = '"' then pure ([], rest)
    else if c = '\\' then
      match rest with
      | [] => throw (.at .unclosedText start)
      | 'u' :: digits => do
        let (plain, left) ← readCode digits
        let (more, behind) ← readTextFrom start fuel left
        return (plain :: more, behind)
      | letter :: left =>
        match escapeLetter? letter with
        -- The fault is told of the backslash, which stands in front of the letter.
        | none => throw (.at .escape (left.length + 2))
        | some plain => do
          let (more, behind) ← readTextFrom start fuel left
          return (plain :: more, behind)
    -- Control characters have to be written as escapes.
    else if c.toNat < 0x20 then throw (.at .controlChar (rest.length + 1))
    else do
      let (more, behind) ← readTextFrom start fuel rest
      return (c :: more, behind)

/-- Reads a text behind its opening quote. -/
def readText (cs : List Char) : Except Fault (String × List Char) := do
  let (text, rest) ← readTextFrom (cs.length + 1) (cs.length + 1) cs
  return (String.ofList text, rest)

end Tablewright.Json
