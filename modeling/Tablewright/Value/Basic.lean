import Tablewright.Value.Fault

/-! The values that contexts hold and that template expressions stand for. -/

namespace Tablewright

/-- The operations that templates can call by name. -/
inductive Helper where
  /-- Names the tag of a column in a table. -/
  | tagName
  /-- Lists columns under their tags. -/
  | aliasedColumns
  deriving DecidableEq, Repr

/-- Where a loop stands. -/
structure LoopState where
  /-- The rounds already behind. -/
  done : Nat
  /-- The rounds in all. -/
  length : Nat
  deriving DecidableEq, Repr

/-- A value: data of a context, or one of the three things that only templates meet. -/
inductive Value where
  | null
  | bool (b : Bool)
  | int (n : Int)
  | float (x : Float)
  | text (s : String)
  | list (items : List Value)
  /-- Values under distinct keys, in the order the keys came in. -/
  | record (entries : List (String × Value))
  /-- A database column, whose fields are as unchecked as any other data. -/
  | column (name type nullable : Value)
  | helper (operation : Helper)
  | loop (state : LoopState)
  /-- A value that is not there, which may be passed on and not be put to use. -/
  | missing (what : Missing)
  deriving Inhabited

/-- Values under names. -/
abbrev Context := List (String × Value)

/-- The kind of a value. -/
def Value.kind : Value → Kind
  | .null => .null
  | .bool _ => .bool
  | .int _ => .int
  | .float _ => .float
  | .text _ => .text
  | .list _ => .list
  | .record _ => .record
  | .column .. => .column
  | .helper _ => .helper
  | .loop _ => .loop
  | .missing _ => .missing

/-- Finds the value under a key. -/
def lookup? (key : String) : List (String × α) → Option α
  -- Keys are distinct, so the first hit is the only one.
  | [] => none
  | (k, v) :: rest => if k = key then some v else lookup? key rest

/-- Puts a value under a key, at the key's old place when it has one and at the end otherwise. -/
def assign (key : String) (value : α) : List (String × α) → List (String × α)
  | [] => [(key, value)]
  | (k, v) :: rest => if k = key then (k, value) :: rest else (k, v) :: assign key value rest

/-- Puts entries under their keys one after another. -/
def assignAll (entries added : List (String × α)) : List (String × α) :=
  added.foldl (fun all entry => assign entry.1 entry.2 all) entries

/-- The keys of entries, in order. -/
def keysOf (entries : List (String × α)) : List String := entries.map (·.1)

end Tablewright
