/-! Why a text is no JSON, and where it stops being so. -/

namespace Tablewright.Json

/-- What is wrong at a place of a text. -/
inductive Cause where
  | value
  | name
  | colon
  | comma
  | extra
  | unclosedText
  | controlChar
  | escape
  | codeEscape
  | byteOrderMark
  deriving DecidableEq, Repr

/-- What is said of a cause. -/
def Cause.message : Cause → String
  | .value => "Expecting value"
  | .name => "Expecting property name enclosed in double quotes"
  | .colon => "Expecting ':' delimiter"
  | .comma => "Expecting ',' delimiter"
  | .extra => "Extra data"
  | .unclosedText => "Unterminated string starting at"
  | .controlChar => "Invalid control character at"
  | .escape => "Invalid \\escape"
  | .codeEscape => "Invalid \\uXXXX escape"
  | .byteOrderMark => "Unexpected UTF-8 BOM (decode using utf-8-sig)"

/-- Why a text is not read. -/
inductive Fault where
  /-- The text is wrong at the place with this many characters left. -/
  | at (cause : Cause) (left : Nat)
  /-- A whole number has too many digits. -/
  | longNumber (digits : Nat)
  /-- Arrays, or objects, nest too deep. -/
  | deep (object : Bool)
  deriving DecidableEq, Repr

/-- The most digits of a whole number. -/
def mostDigits : Nat := 4300

/-- The column behind characters, counted from one. -/
def columnAfter (before : List Char) : Nat := (before.reverse.takeWhile (· != '\n')).length + 1

/-- A place behind characters, by line, column and count. -/
def placeAfter (before : List Char) : String :=
  "line " ++ toString (before.count '\n' + 1) ++ " column " ++ toString (columnAfter before) ++
    " (char " ++ toString before.length ++ ")"

/-- What is said of a text that is not read. -/
def Fault.message (text : List Char) : Fault → String
  | .at cause left => cause.message ++ ": " ++ placeAfter (text.take (text.length - left))
  | .longNumber digits =>
    "Exceeds the limit (" ++ toString mostDigits ++
      " digits) for integer string conversion: value has " ++ toString digits ++
      " digits; use sys.set_int_max_str_digits() to increase the limit"
  | .deep object =>
    "maximum recursion depth exceeded while decoding a JSON " ++
      (if object then "object" else "array") ++ " from a unicode string"

end Tablewright.Json
