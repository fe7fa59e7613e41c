import Tablewright.Text.Ranges

/-! Texts joined and cut, put in order, and freed of blank space and of foreign line ends. -/

namespace Tablewright.Text

/-- Texts one after another with a separator between neighbours. -/
def joined (separator : String) : List String → String
  | [] => ""
  | [s] => s
  | s :: t :: rest => s ++ separator ++ joined separator (t :: rest)

/-- Separates members of every list that is written out. -/
def listSeparator : String := ", "

/-- Code points cut at each separator from the left; `skip` counts those still to be left out. -/
def cutFrom (separator : List Char) : Nat → List Char → List (List Char)
  | _, [] => [[]]
  | skip + 1, _ :: rest => cutFrom separator skip rest
  | 0, c :: rest =>
    -- Once a separator begins, the rest of it is left out and a new part begins behind it.
    if separator.isPrefixOf (c :: rest) then
      [] :: cutFrom separator (separator.length - 1) rest
    else (cutFrom separator 0 rest).modifyHead (c :: ·)

/-- The parts of a text between separators, of which each holds one code point at least. -/
def split (separator text : String) : List String :=
  (cutFrom separator.toList 0 text.toList).map String.ofList

/-- Puts a text in front of the first one that is not less. -/
def placed (s : String) : List String → List String
  | [] => [s]
  | t :: rest => if t < s then t :: placed s rest else s :: t :: rest

/-- Texts in increasing order. -/
def sorted (texts : List String) : List String := texts.foldr placed []

/-- Code points with each carriage return, alone or before a line feed, read as a line feed. -/
def unixLines : List Char → List Char
  | [] => []
  | '\r' :: '\n' :: rest => '\n' :: unixLines rest
  | '\r' :: rest => '\n' :: unixLines rest
  | c :: rest => c :: unixLines rest

/-- Blank code points, in increasing ranges. -/
def blanks : RangeTable :=
  [(0x9, 0xD), (0x1C, 0x20), (0x85, 0x85), (0xA0, 0xA0), (0x1680, 0x1680), (0x2000, 0x200A),
   (0x2028, 0x2029), (0x202F, 0x202F), (0x205F, 0x205F), (0x3000, 0x3000)]

/-- Blank space in the sense of Unicode, line ends and separators included. -/
def isBlank (c : Char) : Bool := blanks.contains c.toNat

/-- The code points without the blank ones in front. -/
def dropBlanks (cs : List Char) : List Char := cs.dropWhile isBlank

/-- The code points without the blank ones at the end. -/
def dropBlanksEnd (cs : List Char) : List Char := (dropBlanks cs.reverse).reverse

/-- A text without the blank space at either end. -/
def trimmed (s : String) : String := String.ofList (dropBlanksEnd (dropBlanks s.toList))

end Tablewright.Text
