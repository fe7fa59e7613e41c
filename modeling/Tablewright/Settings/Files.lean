import Tablewright.Formatter.Command
import Tablewright.Settings.Basic

/-! Files below a working directory, and the paths that lead to them. -/

namespace Tablewright

/-- What stands at a place. -/
inductive FileEntry where
  | directory
  | content (bytes : List UInt8)
  deriving DecidableEq, Repr

/-- The places below the working directory that something stands at. -/
abbrev Files := List (List String × FileEntry)

/-- A path in its plain form: the slashes it starts with, and its parts. -/
structure Path where
  root : String
  parts : List String
  deriving DecidableEq, Repr

namespace Path

/-- The slashes that a path keeps of those it starts with: two are not one, and more are. -/
def rootOf (cs : List Char) : String :=
  match (cs.takeWhile (· == '/')).length with
  | 0 => ""
  | 2 => "//"
  | _ => "/"

/-- A path with empty parts and those that stay in place left out. -/
def ofText (text : String) : Path :=
  let pieces := (pathPieces text.toList).filter fun piece => !piece.isEmpty && piece != ['.']
  ⟨rootOf text.toList, pieces.map String.ofList⟩

/-- A path as it is written. -/
def text (path : Path) : String :=
  let whole := path.root ++ Text.joined "/" path.parts
  if whole = "" then "." else whole

/-- The part that leads up. -/
def up : String := ".."

/-- What a name ends with, from its last point on, when the point stands inside of it. -/
def suffixOf (name : List Char) : List Char :=
  let behind := name.reverse.takeWhile (· != '.')
  -- The point must be there, with something before it and something behind it.
  if behind.isEmpty || name.length ≤ behind.length + 1 then [] else '.' :: behind.reverse

/-- The suffix of a path's last part. -/
def suffix (path : Path) : List Char := suffixOf ((path.parts.getLast?.getD "").toList)

end Path

namespace Files

/-- What stands at a place below the working directory; the directory itself is always there. -/
def entry? (files : Files) (place : List String) : Option FileEntry :=
  if place.isEmpty then some .directory else (files.find? fun file => file.1 == place).map (·.2)

/-- Puts something at a place, and directories above it where there is nothing. -/
def put (files : Files) (place : List String) (entry : FileEntry) : Files :=
  let above := (List.range place.length).map place.take
  let missing := above.filter fun directory => (files.entry? directory).isNone
  (place, entry) :: (missing.map fun directory => (directory, FileEntry.directory)) ++
    files.filter fun file => file.1 != place

/-- Where a walk along a path stands. -/
structure Standing where
  /-- How many directories above the working directory. -/
  above : Nat
  place : List String

/-- What stands where a walk stands; nothing is known beside the working directory. -/
def at? (files : Files) (standing : Standing) : Option FileEntry :=
  if standing.above = 0 then files.entry? standing.place
  else if standing.place.isEmpty then some .directory
  else none

/-- Takes one step from a directory. -/
def step (standing : Standing) (part : String) : Standing :=
  if part = Path.up then
    if standing.place.isEmpty then ⟨standing.above + 1, []⟩
    else ⟨standing.above, standing.place.dropLast⟩
  else ⟨standing.above, standing.place ++ [part]⟩

/-- Walks along parts: what stands at their end, if anything, or a part that is too long. -/
def walk (files : Files) (standing : Standing) : List String → Except Unit (Option FileEntry)
  | [] => pure (files.at? standing)
  | part :: rest =>
    match files.at? standing with
    | some .directory =>
      -- The length of a name matters only where the walk gets to it.
      if longestName < part.utf8ByteSize then throw ()
      else files.walk (step standing part) rest
    | _ => pure none

/-- What stands at the end of a path. -/
def find (files : Files) (path : Path) : Except FileFault (Option FileEntry) :=
  -- A path from the root, or one that holds the character no name holds, leads nowhere.
  if path.text.toList.contains (Char.ofNat 0) then pure none
  else if longestPath < path.text.utf8ByteSize then throw (.nameTooLong path.text)
  else if path.root != "" then
    if path.parts.isEmpty then pure (some .directory) else pure none
  else (files.walk ⟨0, []⟩ path.parts).mapError fun _ => .nameTooLong path.text

end Files

end Tablewright
