import Tablewright.Fragment
import Tablewright.Text.Case

/-! The filters and operations that templates know by name.

Besides the four filters of the package, those for lengths, capitals and joined texts are known, and
the one test of what is there. The language has more of both; these are outside of what is modelled,
and count as unknown. -/

namespace Tablewright.Template

/-- What can stand behind a bar. -/
inductive Filter where
  | typeName
  | variableName
  | columnNames
  | placeholders
  | length
  | upper
  | join
  deriving DecidableEq, Repr

/-- The filter of a name. -/
def Filter.ofName? : String → Option Filter
  | "go_name" => some .typeName
  | "go_var_name" => some .variableName
  | "insert_param_names" => some .columnNames
  | "insert_param_flags" => some .placeholders
  | "length" => some .length
  | "upper" => some .upper
  | "join" => some .join
  | _ => none

/-- The result of an operation that takes one value and no further ones. -/
def onlySubject (operation : String) (arguments : List Value) (result : Except Fault Value) :
    Except Fault Value :=
  if arguments.isEmpty then result
  else throw (.surplusArguments operation 1 (arguments.length + 1))

/-- The texts of a value's elements with a separator between neighbours. -/
def joinedElements (separator subject : Value) : Except Fault Value := do
  -- The separator is looked at before the elements.
  let between ← separator.print
  let parts ← (← subject.elements).mapM Value.print
  return .text (Text.joined between parts)

/-- The length of a value. -/
def lengthOf (subject : Value) (arguments : List Value) : Except Fault Value :=
  if arguments.isEmpty then do return .int (← subject.length)
  else throw (.notSingleArgument "len" (arguments.length + 1))

/-- The result of a filter on its subject and the arguments behind its name. -/
def Filter.apply (filter : Filter) (subject : Value) (arguments : List Value) :
    Except Fault Value :=
  match filter with
  | .typeName =>
    onlySubject "go_name" arguments do return .text (← Naming.typeNameOf subject)
  | .variableName =>
    onlySubject "go_var_name" arguments do return .text (← Naming.variableNameOf subject)
  | .columnNames =>
    onlySubject "insert_param_names" arguments do return .text (← Fragment.columnNamesOf subject)
  | .placeholders =>
    onlySubject "insert_param_flags" arguments do return .text (← Fragment.placeholdersOf subject)
  | .length => lengthOf subject arguments
  | .upper => onlySubject "do_upper" arguments do return .text (Text.upperCase (← subject.print))
  | .join =>
    match arguments with
    | [] => joinedElements (.text "") subject
    | [separator] => joinedElements separator subject
    -- Two of what the message counts stand in front of the arguments.
    | _ => throw (.surplusArguments "sync_do_join" 4 (arguments.length + 2))

/-- What can stand behind `is`. -/
inductive Test where
  | defined
  deriving DecidableEq, Repr

/-- The test of a name. -/
def Test.ofName? : String → Option Test
  | "defined" => some .defined
  | _ => none

/-- The outcome of a test on its subject and the arguments behind its name. -/
def Test.apply (test : Test) (subject : Value) (arguments : List Value) : Except Fault Value :=
  match test with
  | .defined => onlySubject "test_defined" arguments <| pure <|
    match subject with
    | .missing _ => .bool false
    | _ => .bool true

/-- The result of an operation on two values, or what is wrong with their number. -/
def onPair (operation first second : String) (arguments : List Value)
    (result : Value → Value → Except Fault String) : Except Fault Value :=
  match arguments with
  | [a, b] => do return .text (← result a b)
  | [] => throw (.lackingArguments operation [first, second])
  | [_] => throw (.lackingArguments operation [second])
  | _ => throw (.surplusArguments operation 2 arguments.length)

/-- The names of the arguments of an operation. -/
def argumentPair : Helper → String × String
  | .tagName => ("table_name", "column_name")
  | .aliasedColumns => ("table_name", "columns")

/-- The result of a called operation. -/
def applyHelper (operation : Helper) (arguments : List Value) : Except Fault Value :=
  let (first, second) := argumentPair operation
  onPair operation.name first second arguments <| match operation with
    | .tagName => Naming.tagNameOf
    | .aliasedColumns => Fragment.aliasedColumnsOf

/-- The result of calling a value, which has to be an operation. -/
def call (operation : Value) (arguments : List Value) : Except Fault Value :=
  match operation with
  | .helper helper => applyHelper helper arguments
  | .missing what => throw (.missing what)
  | value => throw (.notCallable value.kind)

/-- The names that every template finds, unless its context gives them other values. -/
def helpers : List (String × Value) :=
  [Helper.tagName, .aliasedColumns].map fun helper => (helper.name, .helper helper)

end Tablewright.Template
