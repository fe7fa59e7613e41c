import Tablewright.Value.Same

/-! Digests of values, which equal values share. -/

namespace Tablewright

/-- What a value is reduced to for finding it in a set. -/
inductive Digest where
  | null
  | number (residue : Int)
  | text (s : String)
  | column (name type nullable : Digest)
  | helper (operation : Helper)
  | loop (state : LoopState)
  /-- Shared with no other value. -/
  | lone
  deriving DecidableEq, Repr

/-- The prime that numbers are reduced by, one less than a power of two. -/
def digestModulus : Nat := 0x1FFFFFFFFFFFFFFF

/-- The number that undoes a multiplication by a power of two, up to the modulus. -/
def halvings (power : Nat) : Nat := 1 <<< ((61 - power % 61) % 61)

/-- The residue of a whole number, where minus one is left to failures. -/
def signedResidue (negative : Bool) (size : Nat) : Int :=
  let residue : Int := (size % digestModulus : Nat)
  let signed := if negative then -residue else residue
  if signed = -1 then -2 else signed

/-- The digest of an exact number, whose denominator is a power of two. -/
def Exact.digest : Exact → Digest
  | .below => .number (-314159)
  | .above => .number 314159
  | .fraction numerator denominator =>
    let size := numerator.natAbs % digestModulus * halvings denominator.log2
    .number (signedResidue (numerator < 0) size)

/-- The digest of a value, for values that have one. -/
def Value.digest : Value → Except Fault Digest
  | .null => pure .null
  | .text s => pure (if s = "" then .number 0 else .text s)
  | .list _ => throw (.notHashable .list)
  | .record _ => throw (.notHashable .record)
  | .missing what => throw (.missing what)
  | .helper operation => pure (.helper operation)
  | .loop state => pure (.loop state)
  | .column name type nullable => do
    return .column (← name.digest) (← type.digest) (← nullable.digest)
  -- Numbers of one value have one digest, whatever their kind.
  | value =>
    match value.number? with
    | some number => pure number.digest
    | none => pure .lone

/-- Whether a digest shows that two values may be equal. -/
def Digest.meets : Digest → Digest → Bool
  | .lone, _ | _, .lone => false
  | .column name type nullable, .column name' type' nullable' =>
    name.meets name' && type.meets type' && nullable.meets nullable'
  | a, b => a = b

/-- Whether two values have digests that meet; the first one without a digest fails. -/
def digestsMeet (a b : Value) : Except Fault Bool := do
  let first ← a.digest
  return first.meets (← b.digest)

end Tablewright
