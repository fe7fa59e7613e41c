import Tablewright.Text.Basic
import Tablewright.Value.Kind

/-! Why an operation cannot be carried out on the values it was given. -/

namespace Tablewright

/-- Why an operation cannot be carried out on the values it was given. -/
inductive Fault where
  /-- A missing value was put to use. -/
  | missing (what : Missing)
  /-- A value of this kind has no such member. -/
  | noMember (kind : Kind) (member : String)
  /-- A value of this kind has no elements to visit. -/
  | notIterable (kind : Kind)
  /-- A value of this kind takes no arguments. -/
  | notCallable (kind : Kind)
  /-- A value of this kind cannot be looked up in a set. -/
  | notHashable (kind : Kind)
  /-- A value of this kind has no length. -/
  | noLength (kind : Kind)
  /-- The element at this place is no text and cannot be joined to texts. -/
  | notJoinable (index : Nat) (kind : Kind)
  /-- Values of these kinds cannot be appended to each other. -/
  | notAppendable (left right : Kind)
  /-- Values of these kinds have no order. -/
  | notOrdered (left right : Kind)
  /-- A member was asked for by something that is no text. -/
  | memberNotText (kind : Kind)
  /-- More arguments than an operation takes. -/
  | surplusArguments (operation : String) (takes given : Nat)
  /-- An operation takes one argument and was given another number of them. -/
  | notSingleArgument (operation : String) (given : Nat)
  /-- Arguments that an operation needs and was not given. -/
  | lackingArguments (operation : String) (names : List String)
  /-- An operation takes no arguments and was given some. -/
  | noArguments (operation : String) (given : Nat)
  /-- A number of arguments is beyond the bound of an operation, which the word tells a side of. -/
  | argumentsBeyond (operation side : String) (bound given : Nat)
  /-- A value of this kind is no place in a list. -/
  | notPlace (kind : Kind)
  /-- A place is farther off than any list reaches. -/
  | farPlace
  /-- Nothing can be taken out of an empty list. -/
  | emptyList
  /-- There is no item at the place that one was to be taken from. -/
  | beyondList
  /-- There is no entry under this key, which is given as shown. -/
  | noEntry (key : String)
  deriving DecidableEq, Repr

/-- A count of positional arguments in words. -/
def positionalArguments (count : Nat) : String :=
  if count = 1 then "1 positional argument" else s!"{count} positional arguments"

/-- Names of arguments in a row, with the last one set off. -/
def argumentNames (names : List String) : String :=
  Text.joined " and " (names.map Text.quoted)

/-- What is said of two kinds that cannot be appended to each other. -/
def notAppendableMessage (left right : Kind) : String :=
  let l := left.name
  let r := right.name
  match left with
  | .text | .list => s!"can only concatenate {l} (not \"{r}\") to {l}"
  | _ => s!"unsupported operand type(s) for +: '{l}' and '{r}'"

/-- What is said of a fault. -/
def Fault.message : Fault → String
  | .missing what => what.message
  | .noMember kind member => "'" ++ kind.name ++ "' object has no attribute '" ++ member ++ "'"
  | .notIterable kind => "'" ++ kind.name ++ "' object is not iterable"
  | .notCallable kind => "'" ++ kind.name ++ "' object is not callable"
  | .notHashable kind => "unhashable type: '" ++ kind.name ++ "'"
  | .noLength kind => "object of type '" ++ kind.name ++ "' has no len()"
  | .notJoinable index kind =>
    "sequence item " ++ toString index ++ ": expected str instance, " ++ kind.name ++ " found"
  | .notAppendable left right => notAppendableMessage left right
  | .notOrdered left right =>
    "'<' not supported between instances of '" ++ left.name ++ "' and '" ++ right.name ++ "'"
  | .memberNotText kind => "attribute name must be string, not '" ++ kind.name ++ "'"
  | .surplusArguments operation takes given =>
    operation ++ "() takes " ++ positionalArguments takes ++ " but " ++ toString given ++
      (if given = 1 then " was given" else " were given")
  | .notSingleArgument operation given =>
    operation ++ "() takes exactly one argument (" ++ toString given ++ " given)"
  | .lackingArguments operation names =>
    operation ++ "() missing " ++ toString names.length ++ " required positional argument" ++
      (if names.length = 1 then ": " else "s: ") ++ argumentNames names
  | .noArguments operation given =>
    operation ++ "() takes no arguments (" ++ toString given ++ " given)"
  | .argumentsBeyond operation side bound given =>
    operation ++ " expected " ++ side ++ toString bound ++
      (if bound = 1 then " argument" else " arguments") ++ ", got " ++ toString given
  | .notPlace kind => "'" ++ kind.name ++ "' object cannot be interpreted as an integer"
  | .farPlace => "Python int too large to convert to C ssize_t"
  | .emptyList => "pop from empty list"
  | .beyondList => "pop index out of range"
  | .noEntry key => key

end Tablewright
