import Tablewright.Text.Basic
import Tablewright.Text.Quoted

/-! The tokens of a template, and why a text is no template. -/

namespace Tablewright.Template

/-- The signs of the expression language. -/
inductive Symbol where
  | plus | minus | times | power | divide | floorDivide | modulo | tilde
  | equal | unequal | less | lessEqual | greater | greaterEqual
  | assign | dot | comma | colon | semicolon | pipe
  | openParen | closeParen | openBracket | closeBracket | openBrace | closeBrace
  deriving DecidableEq, Repr

/-- A sign as it is written. -/
def Symbol.text : Symbol → String
  | .plus => "+"
  | .minus => "-"
  | .times => "*"
  | .power => "**"
  | .divide => "/"
  | .floorDivide => "//"
  | .modulo => "%"
  | .tilde => "~"
  | .equal => "=="
  | .unequal => "!="
  | .less => "<"
  | .lessEqual => "<="
  | .greater => ">"
  | .greaterEqual => ">="
  | .assign => "="
  | .dot => "."
  | .comma => ","
  | .colon => ":"
  | .semicolon => ";"
  | .pipe => "|"
  | .openParen => "("
  | .closeParen => ")"
  | .openBracket => "["
  | .closeBracket => "]"
  | .openBrace => "\x7b"
  | .closeBrace => "\x7d"

/-- A block that is still open: its tag, and the tags that may come next. -/
structure OpenBlock where
  tag : String
  awaited : List String
  deriving DecidableEq, Repr

/-- Why a text is no template. -/
inductive SyntaxFault where
  | unclosedComment
  | unclosedRaw
  /-- Nothing in a tag starts with this character, which stands at this place. -/
  | strayChar (c : Char) (position : Nat)
  | malformedName
  /-- An escape in a quoted text breaks off. -/
  | malformedEscape (form : String)
  /-- An escape in a quoted text spells more than the last code point. -/
  | codeOutOfRange
  /-- A closing sign without its opening one, and the sign that would close what is open. -/
  | unbalanced (found : Symbol) (expected : Option Symbol)
  /-- No expression starts with this token. -/
  | unexpected (found : String)
  /-- A tag ends where its expression should start. -/
  | lacksExpression (found : String)
  | expected (wanted found : String)
  | expectedBeforeEnd (wanted : String)
  | lacksMember
  | lacksTag
  | chainedTests
  | notAssignable (form : String)
  /-- No tag has this name here; the blocks are those still open, innermost first. -/
  | unknownTag (name : String) (blocks : List OpenBlock)
  /-- The template ends inside blocks, innermost first. -/
  | unclosedBlock (blocks : List OpenBlock)
  /-- The text nests deeper than it is long. -/
  | tooDeep
  deriving DecidableEq, Repr

/-- The tags that may come next, as alternatives. -/
def alternatives (tags : List String) : String := Text.joined " or " (tags.map Text.quoted)

/-- What is said of the innermost open block to one who meets `name`, or the end, in it. -/
def blockAdvice (name : Option String) (blocks : List OpenBlock) : String :=
  match blocks with
  | [] => ""
  | block :: _ =>
    -- A tag that an outer block awaits points to a mistake in nesting.
    let looking := alternatives block.awaited
    let innermost :=
      " The innermost block that needs to be closed is " ++ Text.quoted block.tag ++ "."
    let awaited := match name with
      | some tag => blocks.any fun other => other.awaited.contains tag
      | none => false
    if awaited then
      " You probably made a nesting mistake. Jinja is expecting this tag, but currently looking" ++
        " for " ++ looking ++ "." ++ innermost
    else " Jinja was looking for the following tags: " ++ looking ++ "." ++ innermost

/-- What is said of a text that is no template. -/
def SyntaxFault.message : SyntaxFault → String
  | .unclosedComment => "Missing end of comment tag"
  | .unclosedRaw => "Missing end of raw directive"
  | .strayChar c position =>
    "unexpected char " ++ Text.quoted (String.singleton c) ++ " at " ++ toString position
  | .malformedName => "Invalid character in identifier"
  | .malformedEscape form => "truncated \\" ++ form ++ " escape"
  | .codeOutOfRange => "illegal Unicode character"
  | .unbalanced found none => "unexpected '" ++ found.text ++ "'"
  | .unbalanced found (some sign) =>
    "unexpected '" ++ found.text ++ "', expected '" ++ sign.text ++ "'"
  | .unexpected found => "unexpected " ++ Text.quoted found
  | .lacksExpression found => "Expected an expression, got " ++ Text.quoted found
  | .expected wanted found =>
    "expected token " ++ Text.quoted wanted ++ ", got " ++ Text.quoted found
  | .expectedBeforeEnd wanted =>
    "unexpected end of template, expected " ++ Text.quoted wanted ++ "."
  | .lacksMember => "expected name or number"
  | .lacksTag => "tag name expected"
  | .chainedTests => "You cannot chain multiple tests with is"
  | .notAssignable form => "can't assign to " ++ Text.quoted form
  | .unknownTag name blocks =>
    "Encountered unknown tag " ++ Text.quoted name ++ "." ++ blockAdvice (some name) blocks
  | .unclosedBlock blocks => "Unexpected end of template." ++ blockAdvice none blocks
  | .tooDeep => "maximum recursion depth exceeded"

/-- A token of a template. -/
inductive Token where
  /-- Text that stands for itself. -/
  | data (s : String)
  | printBegin
  | printEnd
  | blockBegin
  | blockEnd
  | name (s : String)
  | text (s : String)
  | int (n : Nat)
  | symbol (sign : Symbol)
  /-- Reading cannot go on past this place. -/
  | fault (cause : SyntaxFault)
  deriving DecidableEq, Repr

/-- How a message speaks of a token. -/
def Token.described : Token → String
  | .data _ => "template data / text"
  | .printBegin => "begin of print statement"
  | .printEnd => "end of print statement"
  | .blockBegin => "begin of statement block"
  | .blockEnd => "end of statement block"
  | .name s => s
  | .text _ => "string"
  | .int _ => "integer"
  | .symbol sign => sign.text
  | .fault cause => cause.message

end Tablewright.Template
