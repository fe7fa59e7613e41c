import Tablewright.Template.Medium
import Tablewright.Value.Same

/-! The methods by which templates change lists and records, and the values that they change.

Lists know how to append, clear, extend, insert, pop and reverse, and records how to clear and pop;
these change the list or the record itself, for all that hold it. What a column holds is never
changed.

Outside of what is modelled are the other methods of the host language, a method that is not called
right away, a list or a record that is put into itself, and a list that changes while a loop goes
over it: a loop goes over the items that its list has when it starts. -/

namespace Tablewright

/-- The methods of lists. -/
inductive ListMethod where
  | append
  | clear
  | extend
  | insert
  | pop
  | reverse
  deriving DecidableEq, Repr

/-- The method of a name. -/
def ListMethod.ofName? : String → Option ListMethod
  | "append" => some .append
  | "clear" => some .clear
  | "extend" => some .extend
  | "insert" => some .insert
  | "pop" => some .pop
  | "reverse" => some .reverse
  | _ => none

/-- The methods of records. -/
inductive RecordMethod where
  | clear
  | pop
  deriving DecidableEq, Repr

/-- The method of a name. -/
def RecordMethod.ofName? : String → Option RecordMethod
  | "clear" => some .clear
  | "pop" => some .pop
  | _ => none

/-- The items of a held value: those of a list as they are held, and all others by themselves. -/
def Held.elements (cells : Cells) (held : Held) : Except Fault (List Held) :=
  match held.shape cells with
  | .list items => pure items
  | _ => do return (← (held.value cells).elements).map .leaf

/-- The places that lists reach, as far as the host language counts. -/
def farthestPlace : Int := 0x7FFFFFFFFFFFFFFF

/-- The place in a list that a value stands for. -/
def Value.place (value : Value) : Except Fault Int :=
  match value.index? with
  | none => throw (.notPlace value.kind)
  | some n => if -farthestPlace - 1 ≤ n ∧ n ≤ farthestPlace then pure n else throw .farPlace

/-- Takes out the item at a place, which counts from the end when it is negative. -/
def popped (items : List α) (place : Int) : Except Fault (List α × α) :=
  -- An empty list is told before the place is looked at.
  if items.isEmpty then throw .emptyList
  else
    match if place < 0 then place + items.length else place with
    | .negSucc _ => throw .beyondList
    | .ofNat n =>
      match items[n]? with
      | none => throw .beyondList
      | some item => pure (items.eraseIdx n, item)

/-- Puts an item in front of a place, and at an end when the place is beyond it. -/
def inserted (items : List α) (place : Int) (item : α) : List α :=
  let n := (if place < 0 then place + items.length else place).toNat
  items.take n ++ item :: items.drop n

/-- Nothing, as what a method gives back. -/
def Held.null : Held := .leaf .null

/-- What a method makes of a list, and what it gives back. -/
def ListMethod.apply (cells : Cells) (items arguments : List Held) :
    ListMethod → Except Fault (List Held × Held)
  | .append =>
    match arguments with
    | [item] => pure (items ++ [item], .null)
    | _ => throw (.notSingleArgument "list.append" arguments.length)
  | .clear =>
    match arguments with
    | [] => pure ([], .null)
    | _ => throw (.noArguments "list.clear" arguments.length)
  | .extend =>
    match arguments with
    -- A list that is added to itself is read before it grows.
    | [more] => do return (items ++ (← more.elements cells), .null)
    | _ => throw (.notSingleArgument "list.extend" arguments.length)
  | .insert =>
    match arguments with
    | [place, item] => do return (inserted items (← (place.value cells).place) item, .null)
    | _ => throw (.argumentsBeyond "insert" "" 2 arguments.length)
  | .pop =>
    match arguments with
    | [] => popped items (-1)
    | [place] => do popped items (← (place.value cells).place)
    | _ => throw (.argumentsBeyond "pop" "at most " 1 arguments.length)
  | .reverse =>
    match arguments with
    | [] => pure (items.reverse, .null)
    | _ => throw (.noArguments "list.reverse" arguments.length)

/-- What becomes of a key without an entry: the default, or a fault. -/
def unlisted (key : Value) : Option Held → Except Fault Held
  | some default => pure default
  | none => throw (.noEntry key.shown)

/-- Takes out the entry under a key. -/
def poppedEntry (entries : List (String × Held)) (key : Value) (default : Option Held) :
    Except Fault (List (String × Held) × Held) := do
  -- Among no entries the key is not even looked at.
  if entries.isEmpty then return (entries, ← unlisted key default)
  key.lookupKey
  match key with
  | .text name =>
    match lookup? name entries with
    | some found => return (entries.filter fun entry => entry.1 != name, found)
    | none => return (entries, ← unlisted key default)
  | key => return (entries, ← unlisted key default)

/-- What a method makes of a record, and what it gives back. -/
def RecordMethod.apply (cells : Cells) (entries : List (String × Held)) (arguments : List Held) :
    RecordMethod → Except Fault (List (String × Held) × Held)
  | .clear =>
    match arguments with
    | [] => pure ([], .null)
    | _ => throw (.noArguments "dict.clear" arguments.length)
  | .pop =>
    match arguments with
    | [] => throw (.argumentsBeyond "pop" "at least " 1 0)
    | [key] => poppedEntry entries (key.value cells) none
    | [key, default] => poppedEntry entries (key.value cells) (some default)
    | _ => throw (.argumentsBeyond "pop" "at most " 2 arguments.length)

/-- What the method of a name makes of a level of a value, when the level knows it. -/
def Shape.method? (cells : Cells) (name : String) (arguments : List Held) :
    Shape Held → Option (Except Fault (Shape Held × Held))
  | .leaf _ => none
  | .list items => (ListMethod.ofName? name).map fun method => do
    let (left, result) ← method.apply cells items arguments
    return (.list left, result)
  | .record entries => (RecordMethod.ofName? name).map fun method => do
    let (left, result) ← method.apply cells entries arguments
    return (.record left, result)

/-- The part of a level under a name. -/
def Shape.entry? (name : String) : Shape α → Option α
  | .record entries => lookup? name entries
  | .leaf _ | .list _ => none

/-- The part of a level under a key. -/
def Shape.part? (key : Value) : Shape α → Option α
  | .leaf _ => none
  | .list items => key.index?.bind (itemAt? items)
  | .record entries =>
    match key with
    | .text name => lookup? name entries
    | _ => none

namespace Template

/-- What a template does among values that are kept in cells. -/
abbrev Acting := StateT Cells (Except RunFault)

/-- What can be told of the cells as they are. -/
def reading (read : Cells → Except Fault α) : Acting α := do run (read (← get))

/-- A part that is held, or what the plain value has in its place. -/
def partOr (part? : Shape Held → Option Held) (plain : Value → Except Fault Value) (held : Held) :
    Acting Held :=
  reading fun cells =>
    match part? (held.shape cells) with
    | some part => pure part
    | none => do return .leaf (← plain (held.value cells))

/-- Calls a method of the holder, or the member itself where the holder has no such method. -/
def sendHeld (holder : Held) (name : String) (member : Held) (arguments : List Held) :
    Acting Held := do
  let cells ← get
  match (holder.shape cells).method? cells name arguments with
  | some outcome =>
    let (left, result) ← run outcome
    -- The holder is changed in its cell, for everything that leads there.
    set (holder.overwrite cells left)
    return result
  | none => return .leaf (← run (call (member.value cells) (arguments.map (Held.value cells))))

/-- Values in cells, which methods change for all that hold them. -/
def Medium.held : Medium Acting Held where
  leaf := .leaf
  look held := reading fun cells => pure (held.value cells)
  lookAll row := reading fun cells => pure (row.map (Held.value cells))
  elements held := reading fun cells => held.elements cells
  member name := partOr (Shape.entry? name) (Value.member name)
  element key := partOr (Shape.part? key) (Value.element · key)
  send := sendHeld

end Template

end Tablewright
