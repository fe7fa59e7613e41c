import Tablewright.Log.Traced

/-! Traces follow each other: what each step adds to the trace of those behind it. -/

namespace Tablewright.Traced

variable {ε δ α β : Type}

/-- Taking over a result leaves no trace. -/
@[simp] theorem liftM_eq_ofExcept (result : Except ε α) :
    (liftM result : Traced ε α) = ofExcept result := rfl

/-- What goes on from a success follows its trace. -/
theorem ok_bind (value : α) (log : List LogEntry) (calls : Nat) (next : α → Traced ε β) :
    ((⟨.ok value, log, calls⟩ : Traced ε α) >>= next) =
      ⟨(next value).result, log ++ (next value).log, calls + (next value).calls⟩ := rfl

/-- Nothing goes on from a failure, and its trace stays as it is. -/
theorem error_bind (cause : ε) (log : List LogEntry) (calls : Nat) (next : α → Traced ε β) :
    ((⟨.error cause, log, calls⟩ : Traced ε α) >>= next) = ⟨.error cause, log, calls⟩ := rfl

/-- Steps can be grouped at will: their reports follow each other and their calls add up. -/
instance : LawfulMonad (Traced ε) := by
  refine LawfulMonad.mk' _ ?handedOn ?begun ?grouped
  case handedOn =>
    rintro α ⟨result, log, calls⟩
    -- Handing on a success adds no report and no call.
    cases result with
    | error cause => rfl
    | ok value =>
      change (⟨.ok value, log ++ [], calls + 0⟩ : Traced ε α) = ⟨.ok value, log, calls⟩
      rw [List.append_nil, Nat.add_zero]
  case begun =>
    intro α β value next
    change ((⟨.ok value, [], 0⟩ : Traced ε α) >>= next) = next value
    rw [ok_bind, List.nil_append, Nat.zero_add]
  case grouped =>
    rintro α β γ ⟨result, log, calls⟩ second third
    cases result with
    | error cause => rfl
    | ok value =>
      simp only [ok_bind]
      -- Whether the second step succeeds decides if the third one comes to anything.
      obtain ⟨result', log', calls'⟩ := second value
      cases result' with
      | error cause => rfl
      | ok value' => simp only [ok_bind, List.append_assoc, Nat.add_assoc]

/-- Going on from a taken-over success is just going on. -/
@[simp] theorem ofExcept_ok_bind (value : α) (next : α → Traced ε β) :
    (ofExcept (.ok value) >>= next) = next value := by
  rw [ofExcept, ok_bind]
  simp

/-- A report comes before all reports of what is done next. -/
theorem report_bind (level : Level) (origin : Origin) (message : String)
    (next : Unit → Traced ε β) :
    (report level origin message >>= next) =
      ⟨(next ()).result, ⟨level, origin, message⟩ :: (next ()).log, (next ()).calls⟩ := by
  rw [report, ok_bind]
  simp

/-- A success passes by whatever handles failures. -/
@[simp] theorem onError_ok (value : α) (log : List LogEntry) (calls : Nat)
    (handle : ε → Traced δ α) :
    onError ⟨.ok value, log, calls⟩ handle = ⟨.ok value, log, calls⟩ := rfl

/-- A failure is handled where it arises, and what handling it reports comes last. -/
@[simp] theorem onError_error (cause : ε) (log : List LogEntry) (calls : Nat)
    (handle : ε → Traced δ α) :
    onError ⟨.error cause, log, calls⟩ handle =
      ⟨(handle cause).result, log ++ (handle cause).log, calls + (handle cause).calls⟩ := rfl

/-- What goes on from a step and succeeds goes on from its success. -/
theorem exists_of_bind_eq_ok {step : Traced ε α} {next : α → Traced ε β} {value : β}
    (ran : (step >>= next).result = .ok value) :
    ∃ passed, step.result = .ok passed ∧ (next passed).result = .ok value := by
  -- A step that fails leaves nothing to go on from.
  obtain ⟨result, log, calls⟩ := step
  cases result with
  | error cause => cases ran
  | ok passed => exact ⟨passed, rfl, ran⟩

/-- All reports that a step leaves have a property. -/
def Reports (property : LogEntry → Prop) (step : Traced ε α) : Prop :=
  ∀ entry ∈ step.log, property entry

section

variable {property : LogEntry → Prop}

/-- What is taken over leaves no reports. -/
theorem reports_ofExcept (result : Except ε α) : Reports property (ofExcept result) := by
  intro entry member
  cases member

/-- A failure leaves no reports. -/
theorem reports_fail (cause : ε) : Reports property (fail cause : Traced ε α) :=
  reports_ofExcept (.error cause)

/-- A success leaves no reports. -/
theorem reports_pure (value : α) : Reports property (pure value : Traced ε α) :=
  reports_ofExcept (.ok value)

/-- A report is the only one of its step. -/
theorem reports_report {level : Level} {origin : Origin} {message : String}
    (holds : property ⟨level, origin, message⟩) :
    Reports property (report level origin message : Traced ε Unit) := by
  intro entry member
  obtain rfl := List.mem_singleton.mp member
  exact holds

/-- Steps that leave only such reports make a run that does. -/
theorem Reports.bind {first : Traced ε α} {next : α → Traced ε β}
    (begun : Reports property first) (following : ∀ value, Reports property (next value)) :
    Reports property (first >>= next) := by
  -- Whether the first step succeeds decides if anything follows.
  obtain ⟨result, log, calls⟩ := first
  cases result with
  | error cause => exact begun
  | ok value =>
    -- The reports of a run are those of its first step, and behind them those of what follows.
    rw [ok_bind]
    intro entry member
    rcases List.mem_append.mp member with early | late
    · exact begun entry early
    · exact following value entry late

/-- A step whose failures are handled leaves only such reports when handling does. -/
theorem Reports.onError {step : Traced ε α} {handle : ε → Traced δ α}
    (begun : Reports property step) (handled : ∀ cause, Reports property (handle cause)) :
    Reports property (step.onError handle) := by
  -- A success is not handled, so its reports stay as they are.
  obtain ⟨result, log, calls⟩ := step
  cases result with
  | ok value => exact begun
  | error cause =>
    -- What handling reports comes behind what the step reported before it failed.
    rw [onError_error]
    intro entry member
    rcases List.mem_append.mp member with early | late
    · exact begun entry early
    · exact handled cause entry late

/-- Counting a call leaves the reports alone. -/
theorem Reports.counted {step : Traced ε α} (begun : Reports property step) :
    Reports property step.counted := begun

end

end Tablewright.Traced
