import Tablewright.Proofs.Log.Loggers
import Tablewright.Proofs.Outcome

/-! Runs of calls: loggers stand as the last call that set a level has left them. -/

namespace Tablewright

namespace Logging

/-- A value that counts as true or as untrue. -/
structure Flag where
  value : Value
  holds : Bool
  truth_value : value.truth = .ok holds

/-- A call that sets a level and a handler, or asks for a logger. -/
inductive Call where
  | setUp (level : Value) (rich : Flag)
  | ask (name : Value)

/-- How loggers stand after a call. -/
def Call.after (logging : Logging) : Call → Logging
  | .setUp level rich => ((Logging.setUp level rich.value).run.run logging).2
  | .ask name => ((logger name).run.run logging).2

/-- How loggers stand after calls, one after another. -/
def run (calls : List Call) : Logging := calls.foldl Call.after {}

/-- The level that a call sets, if it is one, and whether reports are to be in colour. -/
def Call.setting? : Call → Option (Value × Bool)
  | .setUp level rich => (levelOf level).toOption.map fun level => (level, rich.holds)
  | .ask _ => none

/-- What the last call sets of those that set a level. -/
def lastSetting? (calls : List Call) : Option (Value × Bool) :=
  (calls.filterMap Call.setting?).getLast?

/-- How the logger of the package is set up: as it began, or with one level and one handler. -/
def setupOf : Option (Value × Bool) → LogSetup
  | none => {}
  | some (level, rich) => ⟨level, false, [if rich then .rich else .stream]⟩

/-- Taking handlers away one by one leaves none. -/
theorem foldl_erase_self (handlers : List Handler) : handlers.foldl List.erase handlers = [] := by
  induction handlers with
  | nil => rfl
  -- The handler that is taken away first is the one in front.
  | cons first rest ih => rw [List.foldl_cons, List.erase_cons_head, ih]

section

variable (logging : Logging)

/-- A call with a level sets it and one handler. -/
theorem run_setUp_ok {level value : Value} (valid : levelOf level = .ok value) (rich : Flag) :
    (setUp level rich.value).run.run logging =
      (.ok (), { logging with root := setupOf (some (value, rich.holds)), hearings := [] }) := by
  -- Neither the level nor the flag stops the call, and no old handler is left for the new one.
  have alone := foldl_erase_self logging.root.handlers
  simp only [setUp, valid, rich.truth_value, mapError_ok]
  change (Except.ok (), { logging with
    root := ⟨value, false, logging.root.handlers.foldl List.erase logging.root.handlers ++
      [handlerFor rich.holds]⟩, hearings := [] }) = _
  -- All old handlers are taken out, and the new one is the only one.
  rw [alone]
  rfl

/-- A call with anything else changes nothing. -/
theorem run_setUp_error {level : Value} {cause : LogFault} (invalid : levelOf level = .error cause)
    (rich : Value) : (setUp level rich).run.run logging = (.error cause, logging) := by
  -- The level comes first, so nothing has been touched when it is refused.
  simp only [setUp, invalid]
  rfl

/-- To ask for a logger by a text gives the one of its name. -/
theorem run_logger_text (name : String) :
    (logger (.text name)).run.run logging =
      (.ok (loggerName name), logging.having (loggerName name)) := rfl

/-- To ask for a logger by anything but a text changes nothing. -/
theorem run_logger_error {name : Value} {cause : Fault}
    (refused : loggerNameOf name = .error cause) :
    (logger name).run.run logging = (.error (.value cause), logging) := by
  simp only [logger, refused]
  rfl

/-- A logger that is asked for changes nothing about how the package is set up. -/
@[simp] theorem root_having (name : String) : (logging.having name).root = logging.root := by
  unfold having
  split <;> rfl

/-- A logger that is asked for joins those there are. -/
@[simp] theorem mem_loggers_having {name other : String} :
    other ∈ (logging.having name).loggers ↔ other = name ∨ other ∈ logging.loggers := by
  -- A logger that is there already is not added for a second time.
  unfold having
  split
  · rename_i there
    exact (or_iff_right_of_imp fun same => same ▸ there).symm
  · exact List.mem_cons

/-- To ask for a logger again changes nothing. -/
@[simp] theorem having_having (name : String) :
    (logging.having name).having name = logging.having name :=
  if_pos ((mem_loggers_having logging).mpr (.inl rfl))

/-- What a logger may be asked for by is a text, or is refused. -/
theorem text_or_refused (name : Value) :
    (∃ text, name = .text text) ∨ ∃ cause, loggerNameOf name = .error cause := by
  -- Only texts can be asked how they begin.
  cases name
  case text text => exact .inl ⟨text, rfl⟩
  all_goals exact .inr ⟨_, rfl⟩

/-- A call sets the package up as it asks for, or leaves it as it was. -/
theorem root_after (call : Call) :
    (call.after logging).root =
      call.setting?.elim logging.root fun setting => setupOf (some setting) := by
  -- A call sets up, or is refused, or asks for a logger; only the first changes the package.
  cases call with
  | setUp level rich =>
    rw [Call.after, Call.setting?]
    cases read : levelOf level with
    | error cause =>
      rw [run_setUp_error logging read]
      rfl
    | ok value =>
      rw [run_setUp_ok logging read]
      rfl
  -- A name that is no text is refused, and any other adds a logger at most.
  | ask name =>
    rw [Call.after]
    rcases text_or_refused name with ⟨text, rfl⟩ | ⟨cause, refused⟩
    · rw [run_logger_text]
      exact root_having logging _
    · rw [run_logger_error logging refused]
      rfl

/-- A call adds the logger that it asks for, and takes none away. -/
theorem mem_loggers_after {call : Call} {name : String} :
    name ∈ (call.after logging).loggers ↔
      name ∈ logging.loggers ∨ ∃ asked, call = .ask (.text asked) ∧ loggerName asked = name := by
  -- Only a call that asks by a text adds a logger.
  cases call with
  | setUp level rich =>
    rw [Call.after]
    cases read : levelOf level with
    | error cause => simp [run_setUp_error logging read]
    | ok value => simp [run_setUp_ok logging read]
  | ask given =>
    rw [Call.after]
    rcases text_or_refused given with ⟨text, rfl⟩ | ⟨cause, refused⟩
    · simp [run_logger_text, or_comm, eq_comm]
    · rw [run_logger_error logging refused]
      -- What was asked by is no text, so no logger was asked for by its name.
      refine (or_iff_left ?_).symm
      rintro ⟨asked, same, -⟩
      cases same
      cases refused

end

/-- One call more comes after the others. -/
theorem run_concat (calls : List Call) (call : Call) :
    run (calls ++ [call]) = call.after (run calls) := by
  rw [run, List.foldl_append]
  rfl

/-- The package is set up as the last call that set a level asked for. -/
theorem root_run (calls : List Call) : (run calls).root = setupOf (lastSetting? calls) := by
  induction calls using List.reverseRecOn with
  | nil => rfl
  | append_singleton calls call ih =>
    rw [run_concat, root_after, ih]
    -- A call that sets a level is the last such one now; any other leaves the last one as it was.
    cases set : call.setting? <;> simp [lastSetting?, set]

/-- The loggers there are: those of the package's places, and those that were asked for. -/
theorem mem_loggers_run {calls : List Call} {name : String} :
    name ∈ (run calls).loggers ↔
      name ∈ packageLoggers ∨ ∃ asked, .ask (.text asked) ∈ calls ∧ loggerName asked = name := by
  induction calls using List.reverseRecOn with
  | nil => simp [run]
  | append_singleton calls call ih =>
    rw [run_concat, mem_loggers_after, ih, or_assoc]
    -- The loggers of the places aside, it was asked for before or is asked for now.
    refine or_congr_right ?_
    simp only [List.mem_append, List.mem_singleton, or_and_right, exists_or, eq_comm (b := call)]

end Logging

end Tablewright
