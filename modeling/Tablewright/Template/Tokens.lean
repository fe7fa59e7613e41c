import Tablewright.Template.Literal
import Tablewright.Template.Margin
import Tablewright.Text.Basic
import Tablewright.Text.Identifier

/-! A template as its tokens: text between tags, and inside tags names, literals and signs. -/

namespace Tablewright.Template

/-- What is being read. -/
inductive Mode where
  /-- Text outside tags; the mark says whether it starts a line. -/
  | text (lineStart : Bool)
  /-- The inside of a tag, with the signs that have to be closed before it can end. -/
  | tag (kind : TagKind) (awaited : List Symbol)

/-- What one step reads: tokens, and where to go on unless reading is over. -/
structure Scanned where
  tokens : List Token
  next : Option (Mode × List Char)

/-- Reading breaks off. -/
def Scanned.fault (cause : SyntaxFault) : Scanned := ⟨[.fault cause], none⟩

/-- A text as a token; an empty one is none. -/
def dataTokens (text : List Char) : List Token :=
  if text.isEmpty then [] else [.data (String.ofList text)]

/-- The signs by what they are written as, longer ones before their own beginnings. -/
def signs : List Symbol :=
  [.power, .floorDivide, .equal, .unequal, .lessEqual, .greaterEqual,
    .plus, .minus, .times, .divide, .modulo, .tilde, .less, .greater, .assign, .dot, .comma, .colon,
    .semicolon, .pipe, .openParen, .closeParen, .openBracket, .closeBracket, .openBrace,
    .closeBrace]

/-- Reads the longest sign in front. -/
def readSign? (cs : List Char) : Option (Symbol × List Char) :=
  signs.findSome? fun sign => (afterWord? sign.text.toList cs).map (sign, ·)

/-- The sign that closes an opening one. -/
def Symbol.closer? : Symbol → Option Symbol
  | .openParen => some .closeParen
  | .openBracket => some .closeBracket
  | .openBrace => some .closeBrace
  | _ => none

/-- Whether a sign closes an earlier one. -/
def Symbol.closes : Symbol → Bool
  | .closeParen | .closeBracket | .closeBrace => true
  | _ => false

/-- The signs that still have to be closed behind a sign. -/
def Symbol.balance (sign : Symbol) (awaited : List Symbol) : Except SyntaxFault (List Symbol) :=
  match sign.closer? with
  | some closer => pure (closer :: awaited)
  | none =>
    if sign.closes then
      match awaited with
      | [] => throw (.unbalanced sign none)
      | expected :: others =>
        -- The sign opened last has to be closed first.
        if sign = expected then pure others else throw (.unbalanced sign (some expected))
    else pure awaited

/-- The token at the end of a tag. -/
def TagKind.endToken : TagKind → Token
  | .print => .printEnd
  | _ => .blockEnd

/-- Reads a word, which has to be an identifier. -/
def scanWord (mode : Mode) (cs : List Char) : Scanned :=
  let word := cs.takeWhile Text.isWordPart
  if Text.isIdentifierRun word then
    ⟨[.name (String.ofList word)], some (mode, cs.dropWhile Text.isWordPart)⟩
  else .fault .malformedName

/-- Reads a sign, or finds that nothing starts with the character at hand. -/
def scanSign (position : Nat) (kind : TagKind) (awaited : List Symbol) (c : Char)
    (rest : List Char) : Scanned :=
  match readSign? (c :: rest) with
  | none => .fault (.strayChar c position)
  | some (sign, left) =>
    match sign.balance awaited with
    | .ok balanced => ⟨[.symbol sign], some (.tag kind balanced, left)⟩
    | .error cause => .fault cause

/-- Reads one part of a tag that does not end here and starts with no blank. -/
def scanPart (position : Nat) (kind : TagKind) (awaited : List Symbol) (c : Char)
    (rest : List Char) : Scanned :=
  -- A quote that is never closed starts nothing, just as any other stray character.
  let mode := Mode.tag kind awaited
  if let some (value, left) := readInt? (c :: rest) then ⟨[.int value], some (mode, left)⟩
  else if Text.isWordPart c then scanWord mode (c :: rest)
  else if c = '\'' ∨ c = '"' then
    match readQuoted? c rest with
    | none => .fault (.strayChar c position)
    | some (body, left) =>
      match unescape body with
      | .ok spelled => ⟨[.text spelled], some (mode, left)⟩
      | .error cause => .fault cause
  else scanSign position kind awaited c rest

/-- The end of a tag, when it stands right here and nothing is left to be closed. -/
def tagEnd? (kind : TagKind) (awaited : List Symbol) (cs : List Char) : Option Closed :=
  if awaited.isEmpty then kind.mark.read? cs else none

/-- Reads one part of a tag, or its end. -/
def scanTag (total : Nat) (kind : TagKind) (awaited : List Symbol) : List Char → Scanned
  | [] => ⟨[], none⟩
  | c :: rest =>
    match tagEnd? kind awaited (c :: rest) with
    | some closed => ⟨[kind.endToken], some (.text closed.lineStart, closed.rest)⟩
    | none =>
      if Text.isBlank c then ⟨[], some (.tag kind awaited, Text.dropBlanks rest)⟩
      else scanPart (total - (rest.length + 1)) kind awaited c rest

/-- Passes over a comment. -/
def scanComment (inside : List Char) : Scanned :=
  match cutAt TagKind.comment.mark.read? inside with
  | some (_, closed) => ⟨[], some (.text closed.lineStart, closed.rest)⟩
  | none => if inside.isEmpty then ⟨[], none⟩ else .fault .unclosedComment

/-- Reads a text that stands for itself, up to its closing tag. -/
def scanRaw (inside : Closed) : Scanned :=
  match cutAt rawEnd? inside.rest with
  | some (text, margin, closed) =>
    ⟨dataTokens (margin.trim .raw inside.lineStart text),
      some (.text closed.lineStart, closed.rest)⟩
  | none => if inside.rest.isEmpty then ⟨[], none⟩ else .fault .unclosedRaw

/-- Goes on behind an opening mark. -/
def Opened.scan (opened : Opened) : Scanned :=
  match opened.kind with
  | .print => ⟨[.printBegin], some (.tag .print [], opened.after.rest)⟩
  | .block => ⟨[.blockBegin], some (.tag .block [], opened.after.rest)⟩
  | .comment => scanComment opened.after.rest
  | .raw => scanRaw opened.after

/-- Reads text up to the next tag and the opening mark of that tag. -/
def scanText (lineStart : Bool) (cs : List Char) : Scanned :=
  match cutAt opened? cs with
  | none => ⟨dataTokens cs, none⟩
  | some (text, opened) =>
    let scanned := opened.scan
    let before := dataTokens (opened.margin.trim opened.kind lineStart text)
    ⟨before ++ scanned.tokens, scanned.next⟩

/-- Reads on to the end; `fuel` bounds the steps and `total` is the length of the whole text. -/
def scanFrom (total : Nat) : Nat → Mode → List Char → List Token
  | 0, _, _ => []
  | fuel + 1, mode, cs =>
    let scanned := match mode with
      | .text lineStart => scanText lineStart cs
      | .tag kind awaited => scanTag total kind awaited cs
    -- Where scanning ends, be it by a fault or by the end, there is nothing to go on with.
    match scanned.next with
    | none => scanned.tokens
    | some (next, rest) => scanned.tokens ++ scanFrom total fuel next rest

/-- The tokens of a template. -/
def tokensOf (source : String) : List Token :=
  -- Every step takes a character at least, and the last one may find none left.
  let cs := Text.unixLines source.toList
  scanFrom cs.length (cs.length + 1) (.text true) cs

end Tablewright.Template
