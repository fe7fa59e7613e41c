import Tablewright.Text.Case
import Tablewright.Value.Access

/-! Names of generated declarations, derived from names whose segments stand between underscores. -/

namespace Tablewright.Naming

/-- Stands between the segments of a name. -/
def separator : Char := '_'

/-- Cuts code points at every separator; neighbours of two separators are empty pieces. -/
def pieces : List Char → List (List Char)
  | [] => [[]]
  | c :: rest =>
    if c = separator then [] :: pieces rest
    else
      match pieces rest with
      -- There is always a piece to join, so this case does not come up.
      | [] => [[c]]
      | piece :: others => (c :: piece) :: others

/-- The segments of a name: its pieces that are not empty. -/
def segments (name : List Char) : List (List Char) :=
  (pieces name).filter fun piece => !piece.isEmpty

/-- The segment that is written in capitals throughout. -/
def idSegment : List Char := ['i', 'd']

/-- A segment with its first code point in title case. -/
def capitalized : List Char → List Char
  | [] => []
  | c :: rest => Text.titled c :: rest

/-- A segment as it stands inside a derived name. -/
def inner (segment : List Char) : List Char :=
  if segment = idSegment then ['I', 'D'] else capitalized segment

/-- The code points of a type name. -/
def typeChars (name : List Char) : List Char := (segments name).flatMap inner

/-- The code points of a variable name, whose first segment stays as it is. -/
def variableChars (name : List Char) : List Char :=
  match segments name with
  | [] => []
  | first :: rest => first ++ rest.flatMap inner

/-- The exported name of the type or field derived from a name. -/
def typeName (name : String) : String := String.ofList (typeChars name.toList)

/-- The name of the variable derived from a name. -/
def variableName (name : String) : String := String.ofList (variableChars name.toList)

/-- The tag of a column in a table. -/
def tagName (table column : String) : String := table ++ String.singleton separator ++ column

/-- The type name derived from a value, which has to be a text. -/
def typeNameOf (name : Value) : Except Fault String := do
  return typeName (← name.asText "split")

/-- The variable name derived from a value, which has to be a text. -/
def variableNameOf (name : Value) : Except Fault String := do
  return variableName (← name.asText "split")

/-- The tag of two values, which have to be texts. -/
def tagNameOf (table column : Value) : Except Fault String := do
  -- The table is looked at first, so of two faults its own is the one that shows.
  let front ← table.followedBy (String.singleton separator)
  appendText front column

end Tablewright.Naming
