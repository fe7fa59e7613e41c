import Tablewright.Generation.Generator
import Tablewright.Proofs.Registry
import Tablewright.Proofs.Template.Passive

/-! Generation step by step: what a template gives reaches the caller unchanged. -/

namespace Tablewright

section

variable {template : Template} {shelves : Shelves} {context last : Context}

/-- Among the values of a context a template has its text, whatever it leaves of them. -/
theorem Template.text_eq_textAmong (template : Template) (shelves : Shelves) (context : Context) :
    template.text shelves context =
      (template.textAmong shelves (.ofContext context)).map (·.1) := by
  rw [Template.text, Template.Shelf.text, StateT.run'_eq, Template.textAmong]
  cases ((shelves.shelf template.shelf).textIn .held template.nodes _).run _ <;> rfl

variable (passive : (shelves.shelf template.shelf).Passive template.nodes)
include passive

/-- A template that calls no methods leaves the values as they are. -/
theorem Template.textAmong_of_passive (context : Context) :
    template.textAmong shelves (.ofContext context) =
      (template.text shelves context).map fun text => (text, .ofContext context) := by
  -- A context is kept in cells that read as the context, and these are left as they are.
  obtain ⟨sound, scopes⟩ := Template.ofContext_readsAs context
  rw [Template.text_eq_textAmong, Template.textAmong, passive.run_textIn sound scopes]
  cases Template.Shelf.textIn .plain (shelves.shelf template.shelf) template.nodes context <;> rfl

variable (unreserved : lookup? Template.reservedName context = none)
include unreserved

/-- The text of a template that calls no methods is that of its nodes among the plain values. -/
theorem Template.text_of_renderNodes {text : String}
    (rendered : Template.renderNodes
      ((shelves.shelf template.shelf).insert Template.insertDepth)
      (context ++ Template.helpers) template.nodes = .ok (text, last)) :
    template.text shelves context = .ok text := by
  rw [Template.text, passive.text_eq, unreserved, rendered]
  rfl

/-- A template that calls no methods and whose nodes stop has no text. -/
theorem Template.text_of_stopped {cause : Template.RunFault}
    (stopped : Template.renderNodes
      ((shelves.shelf template.shelf).insert Template.insertDepth)
      (context ++ Template.helpers) template.nodes = .error cause) :
    template.text shelves context = .error cause := by
  rw [Template.text, passive.text_eq, unreserved, stopped]
  rfl

end

/-- The usual encoding has bytes for every text. -/
theorem encode_defaultEncoding (text : String) : defaultEncoding text = .ok text.toUTF8 := by
  have known : Text.Charset.ofName? "utf-8" = some .utf8 := by decide
  simp [defaultEncoding, Text.encode, known]

/-- What is rendered depends on the text of the template alone, whatever it leaves of the values. -/
theorem Renderer.render_eq (renderer : Renderer) (shelves : Shelves) (template : Template)
    (context : Context) :
    renderer.render shelves template context =
      match template.text shelves context with
      | .error cause => executionFailed template.file cause
      | .ok text => renderer.finish template.file text := by
  -- What is left of the values is let go, and only the text goes on.
  rw [Template.text_eq_textAmong, Renderer.render, Renderer.renderAmong]
  cases template.textAmong shelves (.ofContext context) with
  | error cause => rfl
  | ok done => simp only [bind_assoc, pure_bind, bind_pure, Except.map]

/-- Whether rendering is followed for what it leaves of the values or not, it fails alike. -/
theorem Renderer.onError_render (renderer : Renderer) (shelves : Shelves) (template : Template)
    (context : Context) (target : String) :
    (renderer.render shelves template context).onError (renderFailed target) =
      (renderer.renderAmong shelves template (.ofContext context)).onError (renderFailed target) >>=
        fun done => pure done.1 := by
  -- Both render the same text, and differ only in what they return of a success.
  rw [Renderer.render]
  cases renderer.renderAmong shelves template (.ofContext context) with
  | mk result log calls =>
    cases result with
    | ok done => rfl
    | error cause =>
      -- However the failure is told, it remains one, so nothing of a result is asked for.
      cases cause with
      | fault cause => rfl
      | escape cause =>
        cases cause with
        | value | encoding => rfl
        | formatter cause => cases cause <;> rfl

/-- A template that calls no methods leaves the values as they are when it is rendered. -/
theorem Renderer.renderAmong_of_passive (renderer : Renderer) {shelves : Shelves}
    {template : Template} (passive : (shelves.shelf template.shelf).Passive template.nodes)
    (context : Context) :
    renderer.renderAmong shelves template (.ofContext context) =
      renderer.render shelves template context >>= fun output =>
        pure (output, .ofContext context) := by
  rw [Renderer.renderAmong, Template.textAmong_of_passive passive, Renderer.render_eq]
  cases template.text shelves context <;> rfl

/-- A failure of rendering is never told as a success. -/
theorem renderFailed_ne_ok (target : String) (cause : RenderFailure) (value : α) :
    (renderFailed target cause).result ≠ .ok value := by
  -- Every failure is told of the target or passed on, and both ways fail.
  intro same
  cases cause with
  | fault cause => cases same
  | escape cause =>
    cases cause with
    | value | encoding => cases same
    | formatter cause => cases cause <;> cases same

/-- A target is looked up, the subject is put together, the template is rendered, and the source is
reported. -/
theorem Generator.generate_steps (generator : Generator) (target : Value) (subject : Subject) :
    generator.generate target subject = do
      let template ← (generator.registry.resolve target).onError resolveFailed
      let context ← checked subject.context
      let output ← (generator.renderer.render generator.shelves template context).onError
        (renderFailed target.inMessage)
      Traced.report .info .generator (generatedMessage target.inMessage output.size)
      return output := by
  -- That the values are put into cells is all that is new, and no other step sees it.
  rw [generate, generateAmong, bind_assoc]
  refine bind_congr fun template => ?_
  have held : checked subject.holding =
      checked subject.context >>= fun context => pure (.ofContext context) := by
    rw [Subject.holding]
    cases subject.context <;> rfl
  rw [held]
  simp only [Renderer.onError_render, bind_assoc, pure_bind]

/-- Without a formatter of its own, a renderer gives the bytes of the text of a template. -/
theorem Renderer.render_unchanged {shelves : Shelves} {template : Template} {context : Context}
    {text : String} (rendered : template.text shelves context = .ok text) :
    Renderer.render ⟨Formatter.unchanged, defaultEncoding⟩ shelves template context =
      ⟨.ok text.toUTF8, [], 1⟩ := by
  simp [Renderer.render_eq, rendered, Renderer.finish, encode_defaultEncoding, Formatter.unchanged,
    Traced.counted, Pure.pure]

/-- A target whose template gives a text is generated as that text, and reported once. -/
theorem Generator.generate_of_text {registry : Registry} {shelves : Shelves} {target : String}
    {subject : Subject} {template : Template} {context : Context} {text : String}
    (found : registry.get? (Template.fileName target) = some template)
    (described : subject.context = .ok context)
    (rendered : template.text shelves context = .ok text) :
    Generator.generate ⟨registry, ⟨Formatter.unchanged, defaultEncoding⟩, shelves⟩ (.text target)
        subject =
      ⟨.ok text.toUTF8,
        [⟨.info, .generator, generatedMessage target text.toUTF8.size⟩], 1⟩ := by
  -- Lookup and context leave no trace; the renderer counts one call and the end is reported.
  simp [Generator.generate_steps, Registry.resolve_of_get? found, described,
    Renderer.render_unchanged rendered, checked, Traced.ok_bind, Traced.report_bind,
    Value.inMessage, Pure.pure]

/-- A target among held values hands on what its template leaves of them. -/
theorem Generator.generateAmong_of_text {registry : Registry} {shelves : Shelves} {target : String}
    {template : Template} {holding left : Holding} {text : String}
    (found : registry.get? (Template.fileName target) = some template)
    (rendered : template.textAmong shelves holding = .ok (text, left)) :
    (Generator.generateAmong ⟨registry, ⟨Formatter.unchanged, defaultEncoding⟩, shelves⟩
      (.text target) (.ok holding)).result = .ok (text.toUTF8, left) := by
  -- With a formatter that leaves all as it is, a run that has its text can only succeed.
  simp [Generator.generateAmong, Registry.resolve_of_get? found, Renderer.renderAmong, rendered,
    Renderer.finish, encode_defaultEncoding, Formatter.unchanged, Traced.counted, checked,
    Traced.ok_bind, Traced.report_bind, Pure.pure]

/-- Of a registry a run depends on the template of its target, and of the shelves on its text. -/
theorem Generator.generate_congr_registry {registry registry' : Registry}
    {shelves shelves' : Shelves} {renderer : Renderer} {target : String} {template : Template}
    (found : registry.get? (Template.fileName target) = some template)
    (found' : registry'.get? (Template.fileName target) = some template)
    (same : ∀ context, template.text shelves' context = template.text shelves context)
    (subject : Subject) :
    Generator.generate ⟨registry', renderer, shelves'⟩ (.text target) subject =
      Generator.generate ⟨registry, renderer, shelves⟩ (.text target) subject := by
  -- The target is looked up once, and from there on the text is all that counts.
  rw [Generator.generate_steps, Generator.generate_steps, Registry.resolve_of_get? found,
    Registry.resolve_of_get? found', Traced.onError_ok, Traced.ok_bind, Traced.ok_bind]
  simp only [Renderer.render_eq, same]

end Tablewright
