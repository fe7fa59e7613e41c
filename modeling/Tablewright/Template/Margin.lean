import Tablewright.Text.Basic

/-! Where tags open and close in a text, and the blank space that goes with them. -/

namespace Tablewright.Template

/-- What the sign behind an opening mark says of the blank space before the tag. -/
inductive Margin where
  /-- The blanks that indent a tag go, unless the tag prints a value. -/
  | plain
  /-- All blank space goes. -/
  | strip
  /-- All blank space stays. -/
  | keep
  deriving DecidableEq, Repr

/-- Reads the sign that may follow an opening mark. -/
def readMargin : List Char → Margin × List Char
  | '-' :: rest => (.strip, rest)
  | '+' :: rest => (.keep, rest)
  | rest => (.plain, rest)

/-- The kinds of tags. -/
inductive TagKind where
  | print
  | block
  | comment
  /-- Text up to the closing tag stands for itself. -/
  | raw
  deriving DecidableEq, Repr

/-- The two characters that close a tag, and whether a whole line can go with it. -/
structure Mark where
  first : Char
  second : Char
  /-- A plus sign may stand before the mark, and the line end behind it goes. -/
  takesLine : Bool

/-- The mark that closes a tag; a raw text begins right behind its own. -/
def TagKind.mark : TagKind → Mark
  | .print => ⟨'\x7d', '\x7d', false⟩
  | .block => ⟨'%', '\x7d', true⟩
  | .comment => ⟨'#', '\x7d', true⟩
  | .raw => ⟨'%', '\x7d', false⟩

/-- What follows a closing mark, and whether it begins a line. -/
structure Closed where
  rest : List Char
  lineStart : Bool

/-- What is left when all blank space in front is dropped. -/
def Closed.afterBlanks (cs : List Char) : Closed :=
  ⟨Text.dropBlanks cs, (cs.takeWhile Text.isBlank).getLast? == some '\n'⟩

/-- What is left when one line end in front is dropped. -/
def Closed.afterLineEnd : List Char → Closed
  | '\n' :: rest => ⟨rest, true⟩
  | rest => ⟨rest, false⟩

/-- The text behind two given characters, when it begins with them. -/
def behind? (first second : Char) : List Char → Option (List Char)
  | a :: b :: rest => if a = first ∧ b = second then some rest else none
  | _ => none

/-- Reads a closing mark with the sign before it and the blanks it takes along. -/
def Mark.read? (mark : Mark) (cs : List Char) : Option Closed :=
  match cs with
  | '-' :: rest => (behind? mark.first mark.second rest).map Closed.afterBlanks
  -- A plus keeps the line end that the mark would take along.
  | '+' :: rest =>
    if mark.takesLine then (behind? mark.first mark.second rest).map (⟨·, false⟩) else none
  | _ =>
    (behind? mark.first mark.second cs).map fun rest =>
      if mark.takesLine then Closed.afterLineEnd rest else ⟨rest, false⟩

/-- The text behind a word, when it begins with it. -/
def afterWord? (word cs : List Char) : Option (List Char) :=
  if word.isPrefixOf cs then some (cs.drop word.length) else none

/-- Reads a block tag that holds nothing but a word, behind its opening mark. -/
def readWordTag? (word : List Char) (mark : Mark) (cs : List Char) : Option (Margin × Closed) := do
  let (margin, inside) := readMargin cs
  let rest ← afterWord? word (Text.dropBlanks inside)
  let closed ← mark.read? (Text.dropBlanks rest)
  return (margin, closed)

/-- A tag that opens, and what follows it. -/
structure Opened where
  kind : TagKind
  margin : Margin
  after : Closed

/-- An opening mark without a word of its own. -/
def Opened.plain (kind : TagKind) (cs : List Char) : Opened :=
  let (margin, rest) := readMargin cs
  ⟨kind, margin, ⟨rest, false⟩⟩

/-- The tag that opens right here, when one does. -/
def opened? : List Char → Option Opened
  | '\x7b' :: '\x7b' :: rest => some (.plain .print rest)
  | '\x7b' :: '#' :: rest => some (.plain .comment rest)
  | '\x7b' :: '%' :: rest =>
    match readWordTag? ['r', 'a', 'w'] TagKind.raw.mark rest with
    | some (margin, closed) => some ⟨.raw, margin, closed⟩
    | none => some (.plain .block rest)
  | _ => none

/-- Cuts a text at the first place where `found` holds of what follows. -/
def cutAt (found : List Char → Option α) : List Char → Option (List Char × α)
  | [] => none
  | c :: rest =>
    match found (c :: rest) with
    | some hit => some ([], hit)
    | none => (cutAt found rest).map fun (text, hit) => (c :: text, hit)

/-- The tag that ends a raw text, when it stands right here. -/
def rawEnd? : List Char → Option (Margin × Closed)
  | '\x7b' :: '%' :: rest => readWordTag? ['e', 'n', 'd', 'r', 'a', 'w'] TagKind.block.mark rest
  | _ => none

/-- A text without the blanks on its last line, when that line is blank from its start. -/
def dropIndent (lineStart : Bool) (text : List Char) : List Char :=
  -- The last line starts behind a line end, or with the text when the text itself starts a line.
  let last := text.reverse.takeWhile (· != '\n')
  if last.all Text.isBlank && (lineStart || text.contains '\n') then
    (text.reverse.dropWhile (· != '\n')).reverse
  else text

/-- The text before a tag, as the tag leaves it. -/
def Margin.trim (margin : Margin) (kind : TagKind) (lineStart : Bool) (text : List Char) :
    List Char :=
  match margin with
  | .strip => Text.dropBlanksEnd text
  | .keep => text
  | .plain => if kind = .print then text else dropIndent lineStart text

end Tablewright.Template
