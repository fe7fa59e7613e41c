import Tablewright.Text.Quoted

/-! Reading UTF-8, where each fault is blamed on the longest start of a code point it broke off. -/

namespace Tablewright.Text

/-- Why a byte, or the start of a longer form, is no UTF-8. -/
inductive Utf8Fault where
  /-- No code point starts with this byte. -/
  | start
  /-- The form breaks off at a byte that cannot continue it. -/
  | continuation
  /-- The form breaks off at the end of the bytes. -/
  | truncated
  deriving DecidableEq, Repr

/-- One step of reading: a code point, or a fault with the bytes it is blamed on. -/
inductive Utf8Step where
  | char (c : Char) (rest : List UInt8)
  | fault (cause : Utf8Fault) (blamed : List UInt8) (rest : List UInt8)

/-- A byte that may continue a form, between the bounds of its place. -/
structure Utf8Place where
  low : Nat
  high : Nat

/-- A place without bounds of its own. -/
def Utf8Place.any : Utf8Place := ⟨0x80, 0xBF⟩

/-- The value that a first byte contributes and the places that follow it. -/
def utf8Form (byte : Nat) : Option (Nat × List Utf8Place) :=
  -- The bounds of the second byte shut out overlong forms, surrogates and what lies past the end.
  if byte < 0x80 then some (byte, [])
  else if byte < 0xC2 then none
  else if byte < 0xE0 then some (byte - 0xC0, [.any])
  else if byte = 0xE0 then some (0, [⟨0xA0, 0xBF⟩, .any])
  else if byte = 0xED then some (0xD, [⟨0x80, 0x9F⟩, .any])
  else if byte < 0xF0 then some (byte - 0xE0, [.any, .any])
  else if byte = 0xF0 then some (0, [⟨0x90, 0xBF⟩, .any, .any])
  else if byte < 0xF4 then some (byte - 0xF0, [.any, .any, .any])
  else if byte = 0xF4 then some (4, [⟨0x80, 0x8F⟩, .any, .any])
  else none

/-- Reads the bytes of the open places; `taken` holds the form's bytes so far, last first. -/
def utf8Continue (value : Nat) (taken : List UInt8) : List Utf8Place → List UInt8 → Utf8Step
  | [], rest => .char (Char.ofNat value) rest
  | _ :: _, [] => .fault .truncated taken.reverse []
  | place :: places, byte :: rest =>
    if place.low ≤ byte.toNat ∧ byte.toNat ≤ place.high then
      utf8Continue (value * 64 + (byte.toNat - 0x80)) (byte :: taken) places rest
    else .fault .continuation taken.reverse (byte :: rest)

/-- Reads one code point, or one fault, from bytes that begin with `byte`. -/
def utf8Step (byte : UInt8) (rest : List UInt8) : Utf8Step :=
  match utf8Form byte.toNat with
  | none => .fault .start [byte] rest
  | some (value, places) => utf8Continue value [byte] places rest

/-- The first fault of a byte sequence: its cause, its place and the bytes it is blamed on. -/
structure Utf8Error where
  cause : Utf8Fault
  position : Nat
  blamed : List UInt8
  deriving DecidableEq, Repr

/-- What is said of the cause of a fault. -/
def Utf8Fault.message : Utf8Fault → String
  | .start => "invalid start byte"
  | .continuation => "invalid continuation byte"
  | .truncated => "unexpected end of data"

/-- The bytes that a fault is blamed on, and their place. -/
def Utf8Error.blame (error : Utf8Error) : String :=
  match error.blamed with
  | [byte] => "byte 0x" ++ hexDigits 2 byte.toNat ++ " in position " ++ toString error.position
  | bytes =>
    "bytes in position " ++ toString error.position ++ "-" ++
      toString (error.position + bytes.length - 1)

/-- What is said of bytes that are no text. -/
def Utf8Error.message (error : Utf8Error) : String :=
  "'utf-8' codec can't decode " ++ error.blame ++ ": " ++ error.cause.message

/-- Reads bytes to their end; `fuel` bounds the steps and `position` counts the bytes behind. -/
def decodeUtf8From : Nat → Nat → List UInt8 → Except Utf8Error (List Char)
  | 0, _, _ | _, _, [] => .ok []
  | fuel + 1, position, byte :: rest =>
    match utf8Step byte rest with
    | .fault cause blamed _ => .error ⟨cause, position, blamed⟩
    | .char c left => (decodeUtf8From fuel (position + c.utf8Size) left).map (c :: ·)

/-- The text that a byte sequence spells, or its first fault. -/
def decodeUtf8 (bytes : List UInt8) : Except Utf8Error String :=
  -- A step takes at least one byte, so the length bounds the steps.
  (decodeUtf8From bytes.length 0 bytes).map String.ofList

/-- Reads bytes to their end with a replacement character for each fault. -/
def decodeUtf8LossyFrom : Nat → List UInt8 → List Char
  | 0, _ | _, [] => []
  | fuel + 1, byte :: rest =>
    match utf8Step byte rest with
    | .fault _ _ left => Char.ofNat 0xFFFD :: decodeUtf8LossyFrom fuel left
    | .char c left => c :: decodeUtf8LossyFrom fuel left

/-- The text that a byte sequence spells, with one replacement character for each fault. -/
def decodeUtf8Lossy (bytes : List UInt8) : String :=
  String.ofList (decodeUtf8LossyFrom bytes.length bytes)

end Tablewright.Text
