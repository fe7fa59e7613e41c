import Tablewright.Formatter.Basic
import Tablewright.Formatter.Shell
import Tablewright.Text.Basic
import Tablewright.Text.Quoted
import Tablewright.Text.Utf8
import Tablewright.Value.Written

/-! Formatters that hand source to a command and take its output. -/

namespace Tablewright

/-- Why a command cannot be started. -/
inductive StartFault where
  | noSuchFile
  | permissionDenied
  | nameTooLong
  deriving DecidableEq, Repr

/-- The number and the words of a failed start. -/
def StartFault.text : StartFault → String
  | .noSuchFile => "[Errno 2] No such file or directory"
  | .permissionDenied => "[Errno 13] Permission denied"
  | .nameTooLong => "[Errno 36] File name too long"

/-- How a command ended. -/
structure Finished where
  /-- Zero is success, and a negative number is a signal. -/
  status : Int
  output : ByteArray
  errors : ByteArray

/-- What the host of a command does with it. -/
abbrev Host := String → ByteArray → Except StartFault Finished

/-- A command that succeeds with some output. -/
def Finished.success (output : ByteArray) : Finished := ⟨0, output, .empty⟩

/-- Bytes as the characters of their numbers. -/
def byteChars (bytes : ByteArray) : List Char := bytes.toList.map fun byte => Char.ofNat byte.toNat

/-- The bytes of characters that stand for them. -/
def charBytes (cs : List Char) : ByteArray := (cs.map fun c => UInt8.ofNat c.toNat).toByteArray

/-- Lines, each with its end, the last one first. -/
def linesReversed (line : List UInt8) (done : List UInt8) : List UInt8 → List UInt8
  | [] => line.reverse ++ done
  | byte :: rest =>
    if byte = 10 then linesReversed [] ((byte :: line).reverse ++ done) rest
    else linesReversed (byte :: line) done rest

/-- The places that exist on a host and hold no command. -/
def occupiedPlaces : List String :=
  ["", ".", "..", "./", "../", "/", "/bin", "/dev", "/dev/null", "/etc", "/etc/hosts",
    "/etc/passwd", "/home", "/lib", "/root", "/sbin", "/tmp", "/tmp/", "/usr", "/usr/bin",
    "/usr/lib", "/var"]

/-- The directories that commands are found in. -/
def commandPlaces : List String := ["", "/bin/", "/usr/bin/"]

/-- Whether a command goes by a name, with or without its directory. -/
def goesBy (command name : String) : Bool :=
  commandPlaces.any fun place => name == place ++ command

/-- The parts of a path between slashes. -/
def pathPieces : List Char → List (List Char)
  | [] => [[]]
  | c :: rest =>
    if c = '/' then [] :: pathPieces rest
    else
      match pathPieces rest with
      | [] => [[c]]
      | piece :: others => (c :: piece) :: others

/-- The longest file name, in bytes. -/
def longestName : Nat := 255

/-- The longest path, in bytes. -/
def longestPath : Nat := 4095

/-- Whether a path, or a part of it, is longer than it can be. -/
def hasLongName (path : String) : Bool :=
  longestPath < path.utf8ByteSize ||
    (pathPieces path.toList).any fun piece => longestName < (String.ofList piece).utf8ByteSize

/-- What a script does, as the end of a command. -/
def finishedScript (source : ByteArray) : Finished :=
  let state := Shell.run (byteChars source)
  ⟨state.status, charBytes state.output, charBytes state.errors⟩

/-- A host with the plainest of commands. -/
def plainHost : Host := fun name source =>
  if goesBy "cat" name then .ok (.success source)
  else if goesBy "tac" name then .ok (.success (linesReversed [] [] source.toList).toByteArray)
  else if goesBy "true" name then .ok (.success .empty)
  else if goesBy "false" name then .ok ⟨1, .empty, .empty⟩
  else if goesBy "sh" name then .ok (finishedScript source)
  -- All further names are of places that are no commands, or of no place at all.
  else if occupiedPlaces.contains name then .error .permissionDenied
  else if hasLongName name then .error .nameTooLong
  else .error .noSuchFile

/-- What is said of a command that cannot be started. -/
def startMessage (command : String) (cause : StartFault) : String :=
  "Unable to run " ++ command ++ ": " ++ cause.text ++ ": " ++ Text.quoted command

/-- What is said of a command that ended without success: its own complaint, or its status. -/
def statusMessage (command : String) (finished : Finished) : String :=
  let complaint := Text.trimmed (Text.decodeUtf8Lossy finished.errors.toList)
  if complaint = "" then command ++ " exited with " ++ toString finished.status else complaint

/-- Hands source to a command. -/
def Formatter.running (host : Host) (command : String) : Formatter := fun source => do
  -- A zero byte is refused before any command is looked for, and is no refusal of the source.
  if command.toList.contains (Char.ofNat 0) then
    Traced.fail (.failed "ValueError" "embedded null byte")
  else
    match host command source with
    | .error cause =>
      let message := startMessage command cause
      Traced.report .error .formatter message
      Traced.fail (.refused message)
    | .ok finished =>
      -- What a command wrote counts only when it says that it succeeded.
      if finished.status = 0 then return finished.output
      else Traced.fail (.refused (statusMessage command finished))

/-- Hands source to a command that is still unchecked. -/
def Formatter.command (host : Host) : Value → Formatter
  | .text command => Formatter.running host command
  | value => fun _ => .fail (.noCommand value.kind)

end Tablewright
