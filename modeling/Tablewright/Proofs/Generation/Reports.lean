import Tablewright.Formatter.Command
import Tablewright.Generation.Generator
import Tablewright.Proofs.Log.Traced

/-! What generation reports: lookups, results and failures, but no warnings. -/

namespace Tablewright

open Traced

/-- A report that is no warning. -/
def LogEntry.NoWarning (entry : LogEntry) : Prop := entry.level ≠ .warning

/-- A formatter whose reports, if it leaves any, are no warnings. -/
def Formatter.NeverWarns (formatter : Formatter) : Prop :=
  ∀ source, Reports LogEntry.NoWarning (formatter source)

/-- A single report on another level is no warning. -/
theorem noWarning_report {level : Level} (other : level ≠ .warning) (origin : Origin)
    (message : String) :
    Reports LogEntry.NoWarning (report level origin message : Traced ε Unit) :=
  reports_report other

/-- A report of a failure on another level is no warning. -/
theorem noWarning_failed {level : Level} (other : level ≠ .warning) (origin : Origin)
    (message : String) (cause : ε) :
    Reports LogEntry.NoWarning
      (report level origin message >>= fun _ => (fail cause : Traced ε α)) :=
  -- The report is of another level, and the failure behind it reports nothing.
  (noWarning_report other origin message).bind fun _ => reports_fail cause

/-- A formatter that runs a command reports at most that the command cannot be started. -/
theorem Formatter.neverWarns_command (host : Host) (command : Value) :
    (Formatter.command host command).NeverWarns := by
  -- A command has to be a text, and what is no text is refused without a report.
  intro source
  cases command with
  | text command =>
    rw [Formatter.command, Formatter.running]
    split
    · exact reports_fail _
    · -- Of all ends of a command, only a failed start is reported here.
      split
      · exact noWarning_failed (by decide) _ _ _
      · split
        · exact reports_pure _
        · exact reports_fail _
  | _ => exact reports_fail _

/-- To look a template up reports at most that there is none. -/
theorem Registry.noWarning_resolve (registry : Registry) (name : Value) :
    Reports LogEntry.NoWarning (registry.resolve name) := by
  -- Of all ends only a name without a template is reported, and that as an error.
  refine (reports_ofExcept _).bind fun file => ?_
  split
  · exact reports_pure _
  · exact noWarning_failed (by decide) _ _ _

/-- A target that cannot be generated is reported as an error. -/
theorem noWarning_targetFailed (target : String) (cause : TargetFault) :
    Reports LogEntry.NoWarning (targetFailed target cause : Traced GenerationFault α) :=
  noWarning_failed (by decide) _ _ _

/-- What rendering passes on is passed on again, or told as the fault of the target. -/
theorem noWarning_escaped (target : String) (cause : Escape) :
    Reports LogEntry.NoWarning (escaped target cause : Traced GenerationFault α) := by
  -- Only what a formatter raises as a fault of targets is reported once more.
  cases cause with
  | value | encoding => exact reports_fail _
  | formatter cause =>
    rw [escaped]
    split
    · exact noWarning_targetFailed _ _
    · exact reports_fail _

section

variable {generator : Generator} (quiet : generator.renderer.formatter.NeverWarns)
include quiet

/-- Rendering reports what stopped it, and what its formatter reports. -/
theorem Generator.noWarning_renderAmong (template : Template) (holding : Holding) :
    Reports LogEntry.NoWarning
      (generator.renderer.renderAmong generator.shelves template holding) := by
  -- What the formatter reports comes first, and a refusal is reported behind that.
  have finished : ∀ file text,
      Reports LogEntry.NoWarning (generator.renderer.finish file text) := by
    intro file text
    unfold Renderer.finish
    split
    · exact reports_fail _
    · refine (quiet _).counted.onError fun cause => ?_
      cases cause with
      | refused message => exact noWarning_failed (by decide) _ _ _
      | rendering | notFound | failed | noCommand => exact reports_fail _
  -- A template that stops is reported before any formatter runs.
  unfold Renderer.renderAmong
  split
  · exact noWarning_failed (by decide) _ _ _
  · exact (finished _ _).bind fun output => reports_pure _

/-- One target is generated without a warning, among whatever values. -/
theorem Generator.noWarning_generateAmong (target : Value) (holding : Except Fault Holding) :
    Reports LogEntry.NoWarning (generator.generateAmong target holding) := by
  -- The target is looked up, then rendered; either step may fail and say so.
  have resolved : Reports LogEntry.NoWarning
      ((generator.registry.resolve target).onError resolveFailed) := by
    refine (generator.registry.noWarning_resolve target).onError fun cause => ?_
    cases cause with
    | value cause => exact reports_fail _
    | notFound name => exact noWarning_targetFailed _ _
  have rendered : ∀ template holding, Reports LogEntry.NoWarning
      ((generator.renderer.renderAmong generator.shelves template holding).onError
        (renderFailed target.inMessage)) := by
    intro template holding
    refine (noWarning_renderAmong quiet template holding).onError fun cause => ?_
    cases cause with
    | fault cause => exact noWarning_targetFailed _ _
    | escape cause => exact noWarning_escaped _ _
  -- The report at the end of a success is no warning either.
  unfold Generator.generateAmong
  exact resolved.bind fun template => (reports_ofExcept _).bind fun holding =>
    (rendered template holding).bind fun done =>
      (noWarning_report (by decide) _ _).bind fun _ => reports_pure _

/-- Targets are generated one after another without a warning. -/
theorem Generator.noWarning_generateEach (holding : Holding) (targets : List Value)
    (done : List (String × ByteArray)) :
    Reports LogEntry.NoWarning (generator.generateEach holding targets done) := by
  -- The reports are those of the single runs, whatever is done already.
  induction targets generalizing holding done with
  | nil => exact reports_pure _
  | cons target rest ih =>
    rw [generateEach]
    exact (noWarning_generateAmong quiet target _).bind fun _ => ih _ _

/-- A batch is generated without a warning. -/
theorem Generator.noWarning_generateAll (targets : Value) (subject : Subject) :
    Reports LogEntry.NoWarning (generator.generateAll targets subject) := by
  -- The values and the names are put together without a report, and then come the targets.
  unfold Generator.generateAll
  exact (reports_ofExcept _).bind fun holding => (reports_ofExcept _).bind fun names =>
    noWarning_generateEach quiet holding names []

end

end Tablewright
