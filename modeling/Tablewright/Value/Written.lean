import Tablewright.Decimal.Written
import Tablewright.Value.Basic

/-! The written form of a value, by itself and inside other values. -/

namespace Tablewright

/-- The name of an operation in messages and templates. -/
def Helper.name : Helper → String
  | .tagName => "db_name"
  | .aliasedColumns => "select_param_names"

mutual

/-- A value as it shows inside another one: texts are quoted. -/
def Value.shown : Value → String
  | .null => "None"
  | .bool b => if b then "True" else "False"
  | .int n => toString n
  | .float x => Decimal.written x
  | .text s => Text.quoted s
  | .list items => "[" ++ Text.joined Text.listSeparator (shownItems items) ++ "]"
  | .record entries => "\x7b" ++ Text.joined Text.listSeparator (shownEntries entries) ++ "\x7d"
  | .column name type nullable =>
    "Column(name=" ++ name.shown ++ ", type=" ++ type.shown ++ ", is_nullable=" ++ nullable.shown ++
      ")"
  | .helper operation => "<function " ++ operation.name ++ ">"
  | .loop state =>
    "<LoopContext " ++ toString (state.done + 1) ++ "/" ++ toString state.length ++ ">"
  | .missing _ => "Undefined"

/-- Each item of a list as it shows. -/
def shownItems : List Value → List String
  | [] => []
  | value :: rest => value.shown :: shownItems rest

/-- Each entry of a record as it shows. -/
def shownEntries : List (String × Value) → List String
  | [] => []
  | (key, value) :: rest => (Text.quoted key ++ ": " ++ value.shown) :: shownEntries rest

end

/-- A value as text: a text is itself, and a value that is not there has no text. -/
def Value.print : Value → Except Fault String
  | .text s => pure s
  | .missing what => throw (.missing what)
  | value => pure value.shown

/-- A value as it reads inside a message. -/
def Value.inMessage : Value → String
  | .text s => s
  | value => value.shown

end Tablewright
