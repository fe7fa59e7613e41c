import Tablewright.Text.UnprintableTable

/-! A text between quotes, with escapes for what has no printed form. -/

namespace Tablewright.Text

/-- Has a printed form of its own; of the blank code points only the space has one. -/
def isPrintable (c : Char) : Bool := !unprintables.contains c.toNat

/-- A number in lower-case hexadecimal digits, with zeros in front up to a width. -/
def hexDigits (width code : Nat) : String :=
  let digits := Nat.toDigits 16 code
  String.ofList (List.replicate (width - digits.length) '0' ++ digits)

/-- The shortest fixed-width escape that can hold a code point. -/
def codeEscape (code : Nat) : String :=
  if code < 0x100 then "\\x" ++ hexDigits 2 code
  else if code < 0x10000 then "\\u" ++ hexDigits 4 code
  else "\\U" ++ hexDigits 8 code

/-- One code point inside the given quotes. -/
def quotedChar (quote c : Char) : String :=
  if c = quote ∨ c = '\\' then String.ofList ['\\', c]
  else if c = '\n' then "\\n"
  else if c = '\r' then "\\r"
  else if c = '\t' then "\\t"
  else if isPrintable c then String.singleton c
  else codeEscape c.toNat

/-- Single quotes, unless the text holds one and holds no double quote. -/
def quoteFor (cs : List Char) : Char :=
  if cs.contains '\'' && !cs.contains '"' then '"' else '\''

/-- A text between quotes, with its quote, the backslash and the unprintable escaped. -/
def quoted (s : String) : String :=
  let quote := quoteFor s.toList
  String.singleton quote ++ String.join (s.toList.map (quotedChar quote)) ++ String.singleton quote

end Tablewright.Text
