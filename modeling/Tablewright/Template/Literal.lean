import Tablewright.Template.Token

/-! Texts and whole numbers as they are written inside tags. -/

namespace Tablewright.Template

/-- The value of a digit in bases up to sixteen. -/
def digitValue? (c : Char) : Option Nat :=
  if '0' ≤ c ∧ c ≤ '9' then some (c.toNat - '0'.toNat)
  else if 'a' ≤ c ∧ c ≤ 'f' then some (c.toNat - 'a'.toNat + 10)
  else if 'A' ≤ c ∧ c ≤ 'F' then some (c.toNat - 'A'.toNat + 10)
  else none

/-- Whether a character is a digit in a base. -/
def isDigitIn (base : Nat) (c : Char) : Bool :=
  match digitValue? c with
  | some digit => digit < base
  | none => false

/-- The number that digits spell in a base. -/
def digitsValue (base : Nat) (cs : List Char) : Nat :=
  cs.foldl (fun value c => value * base + (digitValue? c).getD 0) 0

/-- Digits in front, single underscores between them left out, and what follows. -/
def readDigits (isDigit : Char → Bool) : List Char → List Char × List Char
  | [] => ([], [])
  | [c] => if isDigit c then ([c], []) else ([], [c])
  | c :: d :: rest =>
    -- An underscore belongs to the number only when a digit follows it.
    if isDigit c then
      let (digits, left) := readDigits isDigit (d :: rest)
      (c :: digits, left)
    else if c = '_' ∧ isDigit d then readDigits isDigit (d :: rest)
    else ([], c :: d :: rest)

/-- The base that a letter behind a leading zero stands for. -/
def baseOf? : Char → Option Nat
  | 'b' | 'B' => some 2
  | 'o' | 'O' => some 8
  | 'x' | 'X' => some 16
  | _ => none

/-- Reads a number behind a base letter, with at least one digit. -/
def readBased? (letter : Char) (rest : List Char) : Option (Nat × List Char) := do
  let base ← baseOf? letter
  let (digits, left) := readDigits (isDigitIn base) rest
  if digits.isEmpty then none else some (digitsValue base digits, left)

/-- Reads a whole number; a decimal one with a leading zero is made of zeros alone. -/
def readInt? : List Char → Option (Nat × List Char)
  | '0' :: rest =>
    let based := match rest with
      | letter :: digits => readBased? letter digits
      | [] => none
    match based with
    | some found => some found
    -- Behind a leading zero only zeros go on, and any other digit ends the number.
    | none => some (0, (readDigits (· == '0') rest).2)
  | c :: rest =>
    if isDigitIn 10 c then
      let (digits, left) := readDigits (isDigitIn 10) (c :: rest)
      some (digitsValue 10 digits, left)
    else none
  | [] => none

/-- Splits behind the closing quote; a backslash shields the character behind it. -/
def readQuoted? (quote : Char) : List Char → Option (List Char × List Char)
  | [] => none
  | '\\' :: c :: rest => (readQuoted? quote rest).map fun (body, left) => ('\\' :: c :: body, left)
  | c :: rest =>
    if c = quote then some ([], rest)
    else if c = '\\' then none
    else (readQuoted? quote rest).map fun (body, left) => (c :: body, left)

/-- The characters that stand for another one behind a backslash. -/
def namedEscapes : List (Char × Char) :=
  [('\\', '\\'), ('\'', '\''), ('"', '"'), ('b', '\x08'), ('f', '\x0c'), ('t', '\t'), ('n', '\n'),
    ('r', '\r'), ('v', '\x0b'), ('a', '\x07')]

/-- The count of digits behind a letter that announces a code point. -/
def codeWidth? : Char → Option Nat
  | 'x' => some 2
  | 'u' => some 4
  | 'U' => some 8
  | _ => none

/-- A code point spelled by `width` digits behind a letter. -/
def readCode (letter : Char) (width : Nat) (cs : List Char) :
    Except SyntaxFault (Char × List Char) :=
  let digits := (cs.take width).takeWhile (isDigitIn 16)
  if digits.length < width then
    throw (.malformedEscape (String.ofList (letter :: List.replicate width 'X')))
  else
    let code := digitsValue 16 digits
    if 0x110000 ≤ code then throw .codeOutOfRange
    else pure (Char.ofNat code, cs.drop width)

/-- Reads text with escapes; `fuel` bounds the steps. -/
def unescapeFrom : Nat → List Char → Except SyntaxFault (List Char)
  | 0, _ | _, [] => pure []
  | fuel + 1, '\\' :: c :: rest => do
    -- An escaped line end is no part of the text.
    if c = '\n' then unescapeFrom fuel rest
    else if let some (_, plain) := namedEscapes.find? (·.1 == c) then
      return plain :: (← unescapeFrom fuel rest)
    else if let some width := codeWidth? c then
      let (plain, left) ← readCode c width rest
      return plain :: (← unescapeFrom fuel left)
    else if isDigitIn 8 c then
      -- A code in octal has three digits at most.
      let digits := c :: (rest.take 2).takeWhile (isDigitIn 8)
      return Char.ofNat (digitsValue 8 digits) ::
        (← unescapeFrom fuel (rest.drop (digits.length - 1)))
    else return '\\' :: c :: (← unescapeFrom fuel rest)
  | fuel + 1, c :: rest => do return c :: (← unescapeFrom fuel rest)

/-- A character beyond ASCII as its escape. -/
def asciiForm (c : Char) : List Char :=
  if c.toNat < 0x80 then [c] else (Text.codeEscape c.toNat).toList

/-- The text that the inside of a quoted text spells. -/
def unescape (body : List Char) : Except SyntaxFault String := do
  -- Characters beyond ASCII are escaped first, so a backslash before one shields its escape.
  let ascii := body.flatMap asciiForm
  return String.ofList (← unescapeFrom ascii.length ascii)

end Tablewright.Template
