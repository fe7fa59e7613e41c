import Tablewright.Log.Entry

/-! Results together with what was reported and how often source was handed to a formatter. -/

namespace Tablewright

/-- A result, and the trace it left, which a failure does not undo. -/
structure Traced (ε α : Type) where
  result : Except ε α
  /-- The reports, oldest first. -/
  log : List LogEntry := []
  /-- How often source was handed to a formatter. -/
  calls : Nat := 0

namespace Traced

/-- A failure that leaves no trace. -/
def fail (cause : ε) : Traced ε α := ⟨.error cause, [], 0⟩

/-- A result that leaves no trace. -/
def ofExcept (result : Except ε α) : Traced ε α := ⟨result, [], 0⟩

/-- Goes on with a result; the traces follow each other. -/
def andThen (first : Traced ε α) (next : α → Traced ε β) : Traced ε β :=
  match first.result with
  | .error cause => ⟨.error cause, first.log, first.calls⟩
  | .ok value =>
    let second := next value
    ⟨second.result, first.log ++ second.log, first.calls + second.calls⟩

instance : Monad (Traced ε) where
  pure value := ⟨.ok value, [], 0⟩
  bind := andThen

instance : MonadLift (Except ε) (Traced ε) where
  monadLift := ofExcept

/-- Reports something. -/
def report (level : Level) (origin : Origin) (message : String) : Traced ε Unit :=
  ⟨.ok (), [⟨level, origin, message⟩], 0⟩

/-- Counts one more call of a formatter. -/
def counted (traced : Traced ε α) : Traced ε α := { traced with calls := traced.calls + 1 }

/-- Reports each failure before passing it on under another word. -/
def onError (traced : Traced ε α) (handle : ε → Traced δ α) : Traced δ α :=
  match traced.result with
  | .ok value => ⟨.ok value, traced.log, traced.calls⟩
  | .error cause =>
    let handled := handle cause
    ⟨handled.result, traced.log ++ handled.log, traced.calls + handled.calls⟩

end Traced

end Tablewright
