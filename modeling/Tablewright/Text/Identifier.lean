import Tablewright.Text.IdentifierTable

/-! Identifiers: a beginning code point, then continuing ones, by the Unicode properties. -/

namespace Tablewright.Text

/-- May begin an identifier; the underscore may. -/
def beginsIdentifier (c : Char) : Bool := identifierStarts.contains c.toNat

/-- May stand in an identifier after its first code point. -/
def continuesIdentifier (c : Char) : Bool :=
  beginsIdentifier c || identifierExtras.contains c.toNat

/-- A run of code points that is an identifier; the empty one is none. -/
def isIdentifierRun : List Char → Bool
  | [] => false
  | c :: rest => beginsIdentifier c && rest.all continuesIdentifier

/-- Whether a whole text is an identifier. -/
def isIdentifier (s : String) : Bool := isIdentifierRun s.toList

/-- Reads as part of a word, whether or not an identifier may hold it. -/
def isWordPart (c : Char) : Bool := continuesIdentifier c || wordExtras.contains c.toNat

end Tablewright.Text
