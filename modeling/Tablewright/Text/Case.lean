import Tablewright.Text.LowerTable
import Tablewright.Text.TitleTable
import Tablewright.Text.UpperTable

/-! Title-case, upper-case and lower-case forms of a text. -/

namespace Tablewright.Text

/-- The title-case form of a code point, or the code point where that form is several. -/
def titled (c : Char) : Char :=
  match CaseRun.find? titleRuns c.toNat with
  | some code => Char.ofNat code
  | none => c

/-- The upper-case form of a code point, which may be several. -/
def uppered (c : Char) : List Char :=
  match CaseRun.find? upperRuns c.toNat with
  | some code => [Char.ofNat code]
  | none =>
    match upperExpansions.find? (·.1 == c.toNat) with
    | some (_, codes) => codes.map Char.ofNat
    | none => [c]

/-- The upper-case form of a text, code point by code point. -/
def upperCase (s : String) : String := String.ofList (s.toList.flatMap uppered)

/-- A text is in lower case when lower-casing changes none of its code points. -/
def isLowerCase (s : String) : Bool := s.toList.all fun c => !loweredAway.contains c.toNat

end Tablewright.Text
