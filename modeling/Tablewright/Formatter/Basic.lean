import Tablewright.Registry

/-! Formatters, which turn generated source into its finished form or refuse it. -/

namespace Tablewright

/-- The stages of rendering that can fail. -/
inductive Stage where
  | execution
  | canonicalize
  deriving DecidableEq, Repr

/-- The name of a stage. -/
def Stage.name : Stage → String
  | .execution => "execution"
  | .canonicalize => "canonicalize"

/-- What is said of a stage that fails for a reason. -/
def Stage.failure (stage : Stage) (reason : String) : String := stage.name ++ " failed: " ++ reason

/-- Why a formatter gives nothing back. -/
inductive FormatFault where
  /-- The source is refused. -/
  | refused (message : String)
  /-- The formatter fails by the fault that rendering has for its own stages. -/
  | rendering (stage : Stage) (reason : String)
  /-- The formatter fails by the fault of names that no template goes by. -/
  | notFound (name : String)
  /-- The formatter fails in any other way. -/
  | failed (kind message : String)
  /-- A value of this kind cannot be a command. -/
  | noCommand (kind : Kind)
  deriving DecidableEq, Repr

/-- What is said of a formatter that gives nothing back. -/
def FormatFault.message : FormatFault → String
  | .refused message | .failed _ message => message
  | .rendering stage reason => stage.failure reason
  | .notFound name => (Registry.ResolveFault.notFound name).message
  | .noCommand kind => "expected str, bytes or os.PathLike object, not " ++ kind.name

/-- Turns source into its finished form. -/
abbrev Formatter := ByteArray → Traced FormatFault ByteArray

namespace Formatter

/-- Leaves source as it is. -/
def unchanged : Formatter := fun source => pure source

/-- Refuses all source. -/
def refusing (message : String) : Formatter := fun _ => .fail (.refused message)

/-- Whether bytes occur in a row among others. -/
def occursIn (wanted : List UInt8) : List UInt8 → Bool
  | [] => wanted.isEmpty
  | byte :: rest => wanted.isPrefixOf (byte :: rest) || occursIn wanted rest

/-- Refuses source in which a text occurs. -/
def refusingWith (wanted message : String) : Formatter := fun source =>
  if occursIn wanted.toUTF8.toList source.toList then refusing message source else unchanged source

/-- Fails on all source, by a fault that nothing else knows. -/
def failing (message : String) : Formatter := fun _ => .fail (.failed "ValueError" message)

/-- Replaces bytes, leftmost first; `skip` counts the bytes that are already replaced. -/
def replacedFrom (old new : List UInt8) : Nat → List UInt8 → List UInt8
  | _, [] => []
  | skip + 1, _ :: rest => replacedFrom old new skip rest
  | 0, byte :: rest =>
    if old.isPrefixOf (byte :: rest) then new ++ replacedFrom old new (old.length - 1) rest
    else byte :: replacedFrom old new 0 rest

/-- Bytes with every occurrence of some replaced by others; nothing occurs beside every byte. -/
def replaced (old new bytes : List UInt8) : List UInt8 :=
  if old.isEmpty then new ++ bytes.flatMap (· :: new) else replacedFrom old new 0 bytes

/-- Replaces a text wherever it occurs. -/
def replacing (old new : String) : Formatter := fun source =>
  pure (replaced old.toUTF8.toList new.toUTF8.toList source.toList).toByteArray

end Formatter

end Tablewright
