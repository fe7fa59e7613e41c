import Tablewright.Json.Number

/-! Values read from JSON; of equal names in an object the last one wins. -/

namespace Tablewright.Json

/-- Blank space between the parts of a text. -/
def isSpace (c : Char) : Bool := c = ' ' ∨ c = '\t' ∨ c = '\n' ∨ c = '\r'

/-- The characters without the blank ones in front. -/
def skipSpace (cs : List Char) : List Char := cs.dropWhile isSpace

/-- The words that stand for values. -/
def words : List (List Char × Value) :=
  [(['n', 'u', 'l', 'l'], .null), (['t', 'r', 'u', 'e'], .bool true),
    (['f', 'a', 'l', 's', 'e'], .bool false), (['N', 'a', 'N'], .float (0.0 / 0.0)),
    (['I', 'n', 'f', 'i', 'n', 'i', 't', 'y'], .float (1.0 / 0.0)),
    (['-', 'I', 'n', 'f', 'i', 'n', 'i', 't', 'y'], .float (-1.0 / 0.0))]

/-- Reads a word that stands for a value. -/
def readWord? (cs : List Char) : Option (Value × List Char) :=
  words.findSome? fun (word, value) =>
    if word.isPrefixOf cs then some (value, cs.drop word.length) else none

/-- Reads one value from the front. -/
abbrev ValueReader := List Char → Except Fault (Value × List Char)

/-- Reads the items of an array up to its end; `nested` reads one. -/
def readItems (nested : ValueReader) :
    Nat → List Char → Except Fault (List Value × List Char)
  | 0, cs => throw (.at .comma cs.length)
  | fuel + 1, cs => do
    let (item, behind) ← nested cs
    match skipSpace behind with
    | ']' :: rest => return ([item], rest)
    | ',' :: rest =>
      let (items, left) ← readItems nested fuel (skipSpace rest)
      return (item :: items, left)
    | rest => throw (.at .comma rest.length)

/-- Reads a name and the value behind it. -/
def readMember (nested : ValueReader) (cs : List Char) :
    Except Fault ((String × Value) × List Char) := do
  match cs with
  | '"' :: inside =>
    let (name, behind) ← readText inside
    match skipSpace behind with
    | ':' :: rest =>
      let (value, left) ← nested (skipSpace rest)
      return ((name, value), left)
    | rest => throw (.at .colon rest.length)
  | rest => throw (.at .name rest.length)

/-- Reads the members of an object up to its end. -/
def readMembers (nested : ValueReader) :
    Nat → List (String × Value) → List Char → Except Fault (List (String × Value) × List Char)
  | 0, _, cs => throw (.at .comma cs.length)
  | fuel + 1, entries, cs => do
    let ((name, value), behind) ← readMember nested cs
    -- A name that comes again takes the later value, at its first place.
    let known := assign name value entries
    match skipSpace behind with
    | '\x7d' :: rest => return (known, rest)
    | ',' :: rest => readMembers nested fuel known (skipSpace rest)
    | rest => throw (.at .comma rest.length)

/-- Reads an array behind its opening bracket. -/
def readArray (nested : ValueReader) (cs : List Char) : Except Fault (Value × List Char) := do
  match skipSpace cs with
  | ']' :: rest => return (.list [], rest)
  | inside =>
    let (items, left) ← readItems nested (inside.length + 1) inside
    return (.list items, left)

/-- Reads an object behind its opening brace. -/
def readObject (nested : ValueReader) (cs : List Char) : Except Fault (Value × List Char) := do
  match skipSpace cs with
  | '\x7d' :: rest => return (.record [], rest)
  | inside =>
    let (entries, left) ← readMembers nested (inside.length + 1) [] inside
    return (.record entries, left)

/-- Reads a value that nests no deeper than `depth`. -/
def readValue : Nat → List Char → Except Fault (Value × List Char)
  | _, '"' :: rest => do
    let (text, left) ← readText rest
    return (.text text, left)
  -- Arrays and objects are read one level deeper, as long as there is one.
  | 0, '[' :: _ => throw (.deep false)
  | 0, '\x7b' :: _ => throw (.deep true)
  | depth + 1, '[' :: rest => readArray (readValue depth) rest
  | depth + 1, '\x7b' :: rest => readObject (readValue depth) rest
  | _, cs =>
    match readWord? cs with
    | some found => pure found
    | none => readNumber cs

/-- Reads a text that is one value, nesting no deeper than `depth`. -/
def readWithin (depth : Nat) (cs : List Char) : Except Fault Value := do
  if cs.head? = some (Char.ofNat 0xFEFF) then throw (.at .byteOrderMark cs.length)
  let (value, left) ← readValue depth (skipSpace cs)
  match skipSpace left with
  | [] => return value
  | rest => throw (.at .extra rest.length)

/-- How deep the values of a file may nest. -/
def fileDepth : Nat := 980

/-- The value that the text of a file spells. -/
def read (cs : List Char) : Except Fault Value := readWithin fileDepth cs

end Tablewright.Json
