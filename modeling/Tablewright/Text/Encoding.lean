import Tablewright.Text.Quoted

/-! Character encodings, and why a text may have no bytes in one.

An encoding is any function from texts to bytes. Three are known by their names; others that the
host language knows have to be given as functions. -/

namespace Tablewright.Text

/-- The encodings that are known by name. -/
inductive Charset where
  | utf8
  | ascii
  | latin1
  deriving DecidableEq, Repr

/-- Why a text has no bytes. -/
inductive EncodingFault where
  /-- No encoding has this name. -/
  | unknown (name : String)
  /-- The first run of code points that the encoding lacks: where it starts and its members. -/
  | unencodable (charset : Charset) (position : Nat) (first : Char) (length : Nat)
  /-- An encoding that is not known by name fails in a way of its own. -/
  | foreign (kind message : String)
  deriving DecidableEq, Repr

/-- How texts become bytes: an encoding of any name, known here or not. -/
abbrev Encoding := String → Except EncodingFault ByteArray

/-- The own name of an encoding. -/
def Charset.name : Charset → String
  | .utf8 => "utf-8"
  | .ascii => "ascii"
  | .latin1 => "latin-1"

/-- The number of code points, from zero on, that an encoding has bytes for. -/
def Charset.reach : Charset → Nat
  | .utf8 => 0x110000
  | .ascii => 0x80
  | .latin1 => 0x100

/-- The names of an encoding in lower case with every separator written as an underscore. -/
def Charset.aliases : Charset → List String
  | .utf8 => ["utf_8", "utf8", "u8", "utf"]
  | .ascii => ["ascii", "us_ascii", "646", "us"]
  | .latin1 => ["latin_1", "latin1", "latin", "l1", "iso_8859_1", "iso8859_1", "iso8859", "8859"]

/-- The encoding of a name, whatever its case and its separators. -/
def Charset.ofName? (name : String) : Option Charset :=
  let key := String.ofList (name.toList.map fun c => if c = '-' ∨ c = ' ' then '_' else c.toLower)
  [Charset.utf8, .ascii, .latin1].find? (·.aliases.contains key)

/-- The bytes of a text in an encoding of one byte per code point, or its first gap. -/
def encodeSingle (charset : Charset) (cs : List Char) : Except EncodingFault ByteArray :=
  -- The gap reaches as far as code points without bytes follow each other.
  let fits := fun (c : Char) => decide (c.toNat < charset.reach)
  match cs.dropWhile fits with
  | [] => .ok (cs.map fun c => UInt8.ofNat c.toNat).toByteArray
  | c :: rest =>
    .error (.unencodable charset (cs.takeWhile fits).length c
      (1 + (rest.takeWhile fun d => !fits d).length))

/-- The encoding of a name, which has bytes for no text unless it is one of the three above. -/
def encode (name : String) : Encoding := fun text =>
  match Charset.ofName? name with
  | none => .error (.unknown name)
  | some .utf8 => .ok text.toUTF8
  | some charset => encodeSingle charset text.toList

/-- What is said of a text without bytes. -/
def EncodingFault.message : EncodingFault → String
  | .unknown name => s!"unknown encoding: {name}"
  | .foreign _ message => message
  | .unencodable charset position first length =>
    let codec := charset.name
    let limit := charset.reach
    let shown := codeEscape first.toNat
    -- The run of characters is told by its first and last positions.
    let last := position + length - 1
    let which :=
      if length = 1 then s!"character '{shown}' in position {position}"
      else s!"characters in position {position}-{last}"
    s!"'{codec}' codec can't encode {which}: ordinal not in range({limit})"

end Tablewright.Text
