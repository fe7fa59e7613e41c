import Tablewright.Text.Quoted

/-! Kinds of values, and the values that were asked for and are not there. -/

namespace Tablewright

/-- The kinds of values, for telling apart what an operation was given. -/
inductive Kind where
  | null
  | bool
  | int
  | float
  | text
  | list
  | record
  | column
  | helper
  | loop
  | missing
  deriving DecidableEq, Repr

/-- The name of a kind in messages. -/
def Kind.name : Kind → String
  | .null => "NoneType"
  | .bool => "bool"
  | .int => "int"
  | .float => "float"
  | .text => "str"
  | .list => "list"
  | .record => "dict"
  | .column => "Column"
  | .helper => "function"
  | .loop => "LoopContext"
  | .missing => "StrictUndefined"

/-- How a message speaks of a value of a kind that lacks a member. -/
def Kind.described : Kind → String
  | .null => "None"
  | .column => "boilergen.core.schema.Column object"
  | .loop => "jinja2.runtime.LoopContext object"
  | kind => kind.name ++ " object"

/-- What was asked for and is not there. -/
inductive Missing where
  /-- No value has this name. -/
  | unbound (name : String)
  /-- A value of this kind has no member of this name. -/
  | member (owner : Kind) (name : String)
  /-- A value of this kind has no element under this key, which is given as shown. -/
  | element (owner : Kind) (key : String)
  deriving DecidableEq, Repr

/-- What is said when a missing value is put to use. -/
def Missing.message : Missing → String
  | .unbound name => Text.quoted name ++ " is undefined"
  | .member owner name => Text.quoted owner.described ++ " has no attribute " ++ Text.quoted name
  | .element owner key => owner.described ++ " has no element " ++ key

end Tablewright
