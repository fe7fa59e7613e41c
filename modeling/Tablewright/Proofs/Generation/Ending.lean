import Tablewright.Formatter.Command
import Tablewright.Proofs.Generation.Generator

/-! How generation ends: in exactly one of seven ways, and what each of them leaves behind. -/

namespace Tablewright

/-- How a run for one target ends; a formatter that was called may have left reports of its own. -/
inductive Ending where
  /-- Nothing goes by the name of the target. -/
  | unfound
  /-- The template of a file stops before its end. -/
  | stopped (file : String) (cause : Template.RunFault)
  /-- The text has no bytes in the encoding. -/
  | unwritten (cause : Text.EncodingFault)
  /-- The formatter refuses what the template of a file gives. -/
  | refused (own : List LogEntry) (file message : String)
  /-- The formatter fails by a fault that generation has for targets. -/
  | raised (own : List LogEntry) (cause : FormatFault) (fault : TargetFault)
  /-- The formatter fails by any other fault. -/
  | failed (own : List LogEntry) (cause : FormatFault)
  /-- The formatter gives finished source. -/
  | finished (own : List LogEntry) (source : ByteArray)

/-- The one report of a target that cannot be generated. -/
def failureReport (target : String) (cause : TargetFault) : LogEntry :=
  ⟨.error, .generator, "Generation of " ++ target ++ " failed: " ++ cause.message⟩

/-- What each ending leaves behind: the result, the reports, and the calls of the formatter. -/
def Ending.trace (target : String) : Ending → Traced GenerationFault ByteArray
  | .unfound =>
    ⟨.error (.target target (.notFound target)),
      [⟨.debug, .templates, "Template lookup failed: " ++ target⟩,
        failureReport target (.notFound target)], 0⟩
  | .stopped file cause =>
    ⟨.error (.target target (.render (.execution cause))),
      [⟨.debug, .renderer, "Template " ++ file ++ " failed to execute: " ++ cause.message⟩,
        failureReport target (.render (.execution cause))], 0⟩
  | .unwritten cause => ⟨.error (.escape (.encoding cause)), [], 0⟩
  | .refused own file message =>
    ⟨.error (.target target (.render (.refused message))),
      own ++ [⟨.debug, .renderer,
        "Output of template " ++ file ++ " is not valid source: " ++ message⟩,
        failureReport target (.render (.refused message))], 1⟩
  | .raised own _ fault => ⟨.error (.target target fault), own ++ [failureReport target fault], 1⟩
  | .failed own cause => ⟨.error (.escape (.formatter cause)), own, 1⟩
  | .finished own source =>
    ⟨.ok source, own ++ [⟨.info, .generator, generatedMessage target source.size⟩], 1⟩

/-- What the formatter itself reported. -/
def Ending.own : Ending → List LogEntry
  | .refused own .. | .raised own .. | .failed own _ | .finished own _ => own
  | .unfound | .stopped .. | .unwritten _ => []

section

variable (registry : Registry) (shelves : Shelves) (encoding : Text.Encoding)
  (format : ByteArray → Except FormatFault ByteArray × List LogEntry) (target : String)
  (context : Context)

/-- When a run ends in a way: what each part of the generator gives up to that end. -/
inductive Ends : Ending → Prop where
  | unfound (absent : registry.get? (Template.fileName target) = none) : Ends .unfound
  | stopped {template : Template} {cause : Template.RunFault}
      (found : registry.get? (Template.fileName target) = some template)
      (raised : template.text shelves context = .error cause) :
      Ends (.stopped template.file cause)
  | unwritten {template : Template} {text : String} {cause : Text.EncodingFault}
      (found : registry.get? (Template.fileName target) = some template)
      (rendered : template.text shelves context = .ok text)
      (lacking : encoding text = .error cause) :
      Ends (.unwritten cause)
  | refused {template : Template} {text : String} {source : ByteArray} {own : List LogEntry}
      {message : String} (found : registry.get? (Template.fileName target) = some template)
      (rendered : template.text shelves context = .ok text)
      (written : encoding text = .ok source)
      (refusal : format source = (.error (.refused message), own)) :
      Ends (.refused own template.file message)
  | raised {template : Template} {text : String} {source : ByteArray} {own : List LogEntry}
      {cause : FormatFault} {fault : TargetFault}
      (found : registry.get? (Template.fileName target) = some template)
      (rendered : template.text shelves context = .ok text)
      (written : encoding text = .ok source)
      (failure : format source = (.error cause, own)) (taken : cause.ofTarget? = some fault) :
      Ends (.raised own cause fault)
  | failed {template : Template} {text : String} {source : ByteArray} {own : List LogEntry}
      {cause : FormatFault} (found : registry.get? (Template.fileName target) = some template)
      (rendered : template.text shelves context = .ok text)
      (written : encoding text = .ok source)
      (failure : format source = (.error cause, own)) (other : ∀ message, cause ≠ .refused message)
      (foreign : cause.ofTarget? = none) :
      Ends (.failed own cause)
  | finished {template : Template} {text : String} {source output : ByteArray}
      {own : List LogEntry} (found : registry.get? (Template.fileName target) = some template)
      (rendered : template.text shelves context = .ok text)
      (written : encoding text = .ok source)
      (formatted : format source = (.ok output, own)) :
      Ends (.finished own output)

end

section

variable {registry : Registry} {shelves : Shelves} {encoding : Text.Encoding}
  {format : ByteArray → Except FormatFault ByteArray × List LogEntry} {target : String}
  {context : Context}

/-- No run ends in two ways. -/
theorem Ends.unique {ending other : Ending}
    (ends : Ends registry shelves encoding format target context ending)
    (ends' : Ends registry shelves encoding format target context other) : ending = other := by
  -- Up to the first difference both runs go through the same parts, which give the same.
  cases ends <;> cases ends' <;> grind [FormatFault.ofTarget?]

/-- With a template at hand, only rendering and its report are left of a run. -/
theorem generate_of_found {renderer : Renderer} {template : Template}
    (found : registry.get? (Template.fileName target) = some template) :
    Generator.generate ⟨registry, renderer, shelves⟩ (.text target) (.values context) =
      (renderer.render shelves template context).onError (renderFailed target) >>= fun output =>
        Traced.report .info .generator (generatedMessage target output.size) >>= fun _ =>
          pure output := by
  -- The context is given as it is, so nothing can fail between looking up and rendering.
  have described : checked (Subject.values context).context = .ofExcept (.ok context) := rfl
  rw [Generator.generate_steps, Registry.resolve_of_get? found, described, Traced.onError_ok,
    Traced.ok_bind, Traced.ofExcept_ok_bind]
  simp [Value.inMessage]

/-- A template that stops before its end ends the run, whatever the formatter. -/
theorem generate_of_stopped {renderer : Renderer} {template : Template}
    {cause : Template.RunFault}
    (found : registry.get? (Template.fileName target) = some template)
    (raised : template.text shelves context = .error cause) :
    Generator.generate ⟨registry, renderer, shelves⟩ (.text target) (.values context) =
      (Ending.stopped template.file cause).trace target := by
  -- The renderer reports the fault once, and the generator a second time.
  have render : renderer.render shelves template context = executionFailed template.file cause := by
    simp only [Renderer.render_eq, raised]
  rw [generate_of_found found, render]
  rfl

/-- Of the values a run depends on nothing but the text of its template. -/
theorem generate_congr {renderer : Renderer} {template : Template} {context' : Context}
    (found : registry.get? (Template.fileName target) = some template)
    (same : template.text shelves context' = template.text shelves context) :
    Generator.generate ⟨registry, renderer, shelves⟩ (.text target) (.values context') =
      Generator.generate ⟨registry, renderer, shelves⟩ (.text target) (.values context) := by
  rw [generate_of_found found, generate_of_found found, Renderer.render_eq, Renderer.render_eq,
    same]

end

end Tablewright
