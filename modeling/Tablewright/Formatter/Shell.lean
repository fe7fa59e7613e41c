/-! Shell scripts made of simple commands that print, fail and end. -/

namespace Tablewright.Shell

/-- Where a command's text goes. -/
inductive Sink where
  | output
  | errors
  | nowhere
  deriving DecidableEq, Repr

/-- Where one of a command's two streams is sent: to the stream of a number, or nowhere. -/
structure Redirect where
  /-- The stream of errors is sent there, and not that of the output. -/
  ofErrors : Bool
  /-- The other stream that is joined: that of errors, that of the output, or none. -/
  joins : Option Bool
  deriving DecidableEq, Repr

/-- A part of a script; bytes are read as the characters of their numbers. -/
inductive Piece where
  | word (cs : List Char)
  | redirect (change : Redirect)
  /-- A command ends, and what follows is the next one. -/
  | stop
  /-- The next command runs only when the last one succeeded, or failed. -/
  | onSuccess
  | onFailure
  /-- A line ends; what stands on it runs as soon as it is read. -/
  | line
  /-- A quote is never closed. -/
  | unclosed
  deriving DecidableEq, Repr

/-- Characters that end an unquoted word. -/
def endsWord (c : Char) : Bool :=
  [' ', '\t', '\n', ';', '&', '|', '<', '>', '(', ')'].contains c

/-- A word as far as it is read; a quoted one may be empty. -/
structure Reading where
  cs : List Char
  quoted : Bool

/-- A character added to a word. -/
def Reading.add (reading : Reading) (c : Char) : Reading := { reading with cs := c :: reading.cs }

/-- The pieces that a word contributes. -/
def Reading.pieces (reading : Reading) : List Piece :=
  if reading.cs.isEmpty && !reading.quoted then [] else [.word reading.cs.reverse]

/-- How the reader stands to quotes. -/
inductive Quoting where
  | none
  | single
  | double
  deriving DecidableEq

/-- Stands in a word for the number of the running shell, beyond the characters of bytes. -/
def ownNumber : Char := Char.ofNat 0x100

/-- Stands in a word for the status of the last command. -/
def lastStatus : Char := Char.ofNat 0x101

/-- The redirections by how they are written. -/
def redirects : List (List Char × Redirect) :=
  [("1>&2", ⟨false, some true⟩), (">&2", ⟨false, some true⟩), ("2>&1", ⟨true, some false⟩),
    ("1>/dev/null", ⟨false, none⟩), ("> /dev/null", ⟨false, none⟩), (">/dev/null", ⟨false, none⟩),
    ("2> /dev/null", ⟨true, none⟩), ("2>/dev/null", ⟨true, none⟩)].map
    fun (text, change) => (text.toList, change)

/-- Reads a redirection in front; one that starts with a number has to start a word. -/
def readRedirect? (reading : Reading) (cs : List Char) : Option (Redirect × List Char) :=
  redirects.findSome? fun (text, change) =>
    if text.isPrefixOf cs && (reading.cs.isEmpty || text.head? == some '>') then
      some (change, cs.drop text.length)
    else none

/-- Reads what ends a command in front. -/
def readStop? : List Char → Option (Piece × List Char)
  | '&' :: '&' :: rest => some (.onSuccess, rest)
  | '|' :: '|' :: rest => some (.onFailure, rest)
  | ';' :: rest => some (.stop, rest)
  | '\n' :: rest => some (.line, rest)
  | _ => none

/-- What a sign and the character behind it stand for, outside of single quotes. -/
def readDollar? : List Char → Option (Char × List Char)
  | '$' :: '$' :: rest => some (ownNumber, rest)
  | '$' :: '?' :: rest => some (lastStatus, rest)
  | _ => none

/-- The characters that a backslash shields inside double quotes. -/
def shielded : List Char := ['"', '\\', '$', '\u0060']

/-- One step inside double quotes: the word so far, how quotes stand, and what is left. -/
def doubleStep (reading : Reading) (c : Char) (rest : List Char) :
    Reading × Quoting × List Char :=
  match readDollar? (c :: rest), c, rest with
  | some (mark, left), _, _ => (reading.add mark, .double, left)
  | none, '\\', '\n' :: left => (reading, .double, left)
  -- Inside double quotes a backslash is dropped only in front of a few characters.
  | none, '\\', d :: left =>
    (if shielded.contains d then reading.add d else (reading.add c).add d, .double, left)
  | none, c, left =>
    if c = '"' then (reading, .none, left) else (reading.add c, .double, left)

/-- One step outside of quotes that neither ends a word nor redirects anything. -/
def plainStep (reading : Reading) (c : Char) (rest : List Char) : Reading × Quoting × List Char :=
  match readDollar? (c :: rest), c, rest with
  | some (mark, left), _, _ => (reading.add mark, .none, left)
  | none, '\\', '\n' :: left => (reading, .none, left)
  -- A shielded character is taken as it is, and makes a word even of nothing.
  | none, '\\', d :: left => (⟨d :: reading.cs, true⟩, .none, left)
  | none, c, left =>
    if c = '\'' then ({ reading with quoted := true }, .single, left)
    else if c = '"' then ({ reading with quoted := true }, .double, left)
    else (reading.add c, .none, left)

/-- Cuts a script into pieces; `fuel` bounds the steps. -/
def piecesFrom (quoting : Quoting) (reading : Reading) : Nat → List Char → List Piece
  | 0, _ => reading.pieces
  | _, [] => if quoting = .none then reading.pieces else [.unclosed]
  | fuel + 1, c :: rest =>
    match quoting with
    | .single =>
      if c = '\'' then piecesFrom .none reading fuel rest
      else piecesFrom .single (reading.add c) fuel rest
    | .double =>
      let (next, quoting, left) := doubleStep reading c rest
      piecesFrom quoting next fuel left
    | .none =>
      if let some (change, left) := readRedirect? reading (c :: rest) then
        reading.pieces ++ .redirect change :: piecesFrom .none ⟨[], false⟩ fuel left
      else if let some (ending, left) := readStop? (c :: rest) then
        reading.pieces ++ ending :: piecesFrom .none ⟨[], false⟩ fuel left
      -- A comment begins only where no word has begun.
      else if c = '#' ∧ reading.pieces.isEmpty then
        piecesFrom .none reading fuel (rest.dropWhile (· != '\n'))
      else if endsWord c then reading.pieces ++ piecesFrom .none ⟨[], false⟩ fuel rest
      else
        let (next, quoting, left) := plainStep reading c rest
        piecesFrom quoting next fuel left

/-- The pieces of a script. -/
def pieces (script : List Char) : List Piece :=
  piecesFrom .none ⟨[], false⟩ (script.length + 1) script

/-- What a script has done so far. -/
structure State where
  output : List Char := []
  errors : List Char := []
  /-- How the last command ended; a negative number is the signal that ended the script. -/
  status : Int := 0
  line : Nat := 1
  ended : Bool := false

/-- Sends characters to a sink. -/
def State.send (state : State) (sink : Sink) (cs : List Char) : State :=
  match sink with
  | .output => { state with output := state.output ++ cs }
  | .errors => { state with errors := state.errors ++ cs }
  | .nowhere => state

/-- A command as far as it is gathered. -/
structure Command where
  words : List (List Char) := []
  output : Sink := .output
  errors : Sink := .errors
  skipped : Bool := false

/-- A command with one of its streams sent elsewhere. -/
def Command.redirected (command : Command) (change : Redirect) : Command :=
  let sink := match change.joins with
    | none => .nowhere
    | some true => command.errors
    | some false => command.output
  if change.ofErrors then { command with errors := sink } else { command with output := sink }

/-- Prints characters, successfully. -/
def State.print (state : State) (command : Command) (cs : List Char) : State :=
  { state.send command.output cs with status := 0 }

/-- Adds a complaint to the errors. -/
def State.complain (state : State) (sink : Sink) (status : Int) (complaint : List Char) : State :=
  let place := "sh: ".toList ++ (toString state.line).toList ++ ": ".toList
  { state.send sink (place ++ complaint ++ ['\n']) with status := status }

/-- The value of a digit below eight. -/
def octalDigit? (c : Char) : Option Nat :=
  if '0' ≤ c ∧ c ≤ '7' then some (c.toNat - '0'.toNat) else none

/-- Reads up to `count` octal digits. -/
def readOctal : Nat → Nat → List Char → Nat × List Char
  | 0, value, cs => (value, cs)
  | _, value, [] => (value, [])
  | count + 1, value, c :: rest =>
    match octalDigit? c with
    | some digit => readOctal count (value * 8 + digit) rest
    | none => (value, c :: rest)

/-- The character of an escape letter. -/
def escapeLetter? : Char → Option Char
  | 'n' => some '\n'
  | 't' => some '\t'
  | 'r' => some '\r'
  | 'a' => some '\x07'
  | 'b' => some '\x08'
  | 'f' => some '\x0c'
  | 'v' => some '\x0b'
  | '\\' => some '\\'
  | _ => none

/-- One character behind a backslash, and what follows it. -/
def readEscape (c : Char) (rest : List Char) : List Char × List Char :=
  match octalDigit? c, escapeLetter? c with
  | some _, _ =>
    let (code, left) := readOctal 3 0 (c :: rest)
    ([Char.ofNat (code % 256)], left)
  | none, some plain => ([plain], rest)
  | none, none => (['\\', c], rest)

/-- Prints by a pattern once, taking arguments from the front. -/
def patternFrom : Nat → List Char → List (List Char) → List Char × List (List Char)
  | 0, _, arguments | _, [], arguments => ([], arguments)
  | fuel + 1, '\\' :: c :: rest, arguments =>
    let (plain, left) := readEscape c rest
    let (more, unused) := patternFrom fuel left arguments
    (plain ++ more, unused)
  | fuel + 1, '%' :: '%' :: rest, arguments =>
    let (more, unused) := patternFrom fuel rest arguments
    ('%' :: more, unused)
  | fuel + 1, '%' :: c :: rest, arguments =>
    -- Where arguments are lacking, a number is zero and a text is empty.
    let shown := arguments.headD (if c = 'd' then ['0'] else [])
    let (more, unused) := patternFrom fuel rest arguments.tail
    (shown ++ more, unused)
  | fuel + 1, c :: rest, arguments =>
    let (more, unused) := patternFrom fuel rest arguments
    (c :: more, unused)

/-- Prints by a pattern again and again until the arguments are used up. -/
def patterns (pattern : List Char) : Nat → List (List Char) → List Char
  | 0, _ => []
  | fuel + 1, arguments =>
    let (text, unused) := patternFrom pattern.length pattern arguments
    if unused.isEmpty || unused.length == arguments.length then text
    else text ++ patterns pattern fuel unused

/-- A text with its escapes carried out. -/
def unescaped (cs : List Char) : Nat → List Char
  | 0 => cs
  | fuel + 1 =>
    match cs with
    | '\\' :: c :: rest =>
      -- Here a code in octal digits has to begin with a zero.
      let (plain, left) := if c = '0' then
          let (code, left) := readOctal 3 0 rest
          ([Char.ofNat (code % 256)], left)
        else if (octalDigit? c).isSome then (['\\', c], rest)
        else readEscape c rest
      plain ++ unescaped left fuel
    | c :: rest => c :: unescaped rest fuel
    | [] => []

/-- Words with a blank between neighbours. -/
def spaced : List (List Char) → List Char
  | [] => []
  | [word] => word
  | word :: other :: rest => word ++ ' ' :: spaced (other :: rest)

/-- The number that digits spell. -/
def number? (cs : List Char) : Option Nat :=
  if cs.isEmpty || !cs.all Char.isDigit then none
  else some (cs.foldl (fun value c => value * 10 + (c.toNat - '0'.toNat)) 0)

/-- The signals that end a shell, by name. -/
def signals : List (String × Nat) :=
  [("HUP", 1), ("INT", 2), ("QUIT", 3), ("ABRT", 6), ("KILL", 9), ("USR1", 10), ("SEGV", 11),
    ("USR2", 12), ("PIPE", 13), ("ALRM", 14), ("TERM", 15)]

/-- The signal that a word names. -/
def signal? (word : List Char) : Option Nat :=
  match number? word with
  | some number => some number
  | none => (signals.find? fun entry => entry.1.toList == word).map (·.2)

/-- A signal sent to the shell itself ends the script. -/
def State.kill (state : State) (arguments : List (List Char)) : State :=
  let toItself := fun target signal => if target = [ownNumber] then signal else none
  let sent := match arguments with
    | [target] => toItself target (some 15)
    | ['-' :: 's' :: [], name, target] => toItself target (signal? name)
    | ['-' :: name, target] => toItself target (signal? name)
    | _ => none
  match sent with
  | some 0 => { state with status := 0 }
  -- A shell that a signal ends has that signal, negated, as its status.
  | some number => { state with status := -number, ended := true }
  | none => { state with status := 1 }

/-- Ends the script. -/
def State.exit (state : State) (sink : Sink) (arguments : List (List Char)) : State :=
  match arguments with
  | [] => { state with ended := true }
  | word :: _ =>
    match number? word with
    | some number => { state with status := (number % 256 : Nat), ended := true }
    | none =>
      { state.complain sink 2 ("exit: Illegal number: ".toList ++ word) with ended := true }

/-- Prints arguments in a row. -/
def State.echo (state : State) (command : Command) (arguments : List (List Char)) : State :=
  let shown := fun words => let text := spaced words; unescaped text text.length
  match arguments with
  | ['-', 'n'] :: rest => state.print command (shown rest)
  | words => state.print command (shown words ++ ['\n'])

/-- Prints by a pattern, which has to be there. -/
def State.printf (state : State) (command : Command) (arguments : List (List Char)) : State :=
  match arguments with
  | [] => state.complain command.errors 2 "printf: usage: printf format [arg ...]".toList
  | pattern :: values => state.print command (patterns pattern (values.length + 1) values)

/-- Runs words as a command; braces around commands do nothing. -/
def State.run (state : State) (command : Command) : List (List Char) → State
  | [] => state
  | name :: arguments =>
    match String.ofList name with
    | "echo" => state.echo command arguments
    | "printf" => state.printf command arguments
    | "exit" => state.exit command.errors arguments
    | "kill" => state.kill arguments
    | ":" | "true" => { state with status := 0 }
    | "cat" => { state with status := 0 }
    | "false" => { state with status := 1 }
    -- A brace in front of a command is passed over.
    | "\x7b" => state.run command arguments
    | "\x7d" => state
    | _ => state.complain command.errors 127 (name ++ ": not found".toList)

/-- A word with the status of the last command in the places that ask for it. -/
def State.expand (state : State) (word : List Char) : List Char :=
  word.flatMap fun c => if c = lastStatus then (toString state.status).toList else [c]

/-- Runs a gathered command unless it is to be skipped. -/
def State.finish (state : State) (command : Command) : State :=
  if command.skipped || state.ended then state
  else state.run command (command.words.reverse.map state.expand)

/-- Runs the commands of a line in order. -/
def runLine (state : State) (command : Command) : List Piece → State
  | [] => state.finish command
  | piece :: rest =>
    match piece with
    | .word cs => runLine state { command with words := cs :: command.words } rest
    | .redirect change => runLine state (command.redirected change) rest
    -- What stands behind is skipped by how the command in front of it ended.
    | .onSuccess =>
      let done := state.finish command
      runLine done { skipped := done.status != 0 } rest
    | .onFailure =>
      let done := state.finish command
      runLine done { skipped := done.status == 0 } rest
    | .stop | .line | .unclosed => runLine (state.finish command) {} rest

/-- Runs a script line by line; `gathered` holds the pieces of the line so far, last first. -/
def runLines (state : State) (gathered : List Piece) : List Piece → State
  | [] => runLine state {} gathered.reverse
  | .line :: rest =>
    let done := runLine state {} gathered.reverse
    runLines { done with line := done.line + 1 } [] rest
  | .unclosed :: _ =>
    -- A line is read to its end before anything on it runs.
    if state.ended then state
    else state.complain .errors 2 "Syntax error: Unterminated quoted string".toList
  | piece :: rest => runLines state (piece :: gathered) rest

/-- What a script does. -/
def run (script : List Char) : State := runLines {} [] (pieces script)

end Tablewright.Shell
