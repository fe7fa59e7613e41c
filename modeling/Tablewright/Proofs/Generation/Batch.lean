import Mathlib.Algebra.GroupWithZero.Nat
import Mathlib.Tactic.Choose
import Tablewright.Proofs.Generation.Generator
import Tablewright.Proofs.Table
import Tablewright.Proofs.Template.Compiling

/-! Batches of targets: one run for each target in turn, up to the first one that fails. The runs
share the values they are among, so a batch is one of single runs as long as none changes these. -/

namespace Tablewright.Generator

/-- A run of a target among held values. -/
abbrev Run := Traced GenerationFault (ByteArray × Holding)

/-- What runs for targets come to together: the sources of all, or the failure of the last. -/
def together (done : List (String × ByteArray)) (targets : List String) (runs : List Run) :
    Traced GenerationFault (List (String × ByteArray)) :=
  ⟨(runs.mapM Traced.result).map fun outputs =>
      assignAll done (List.zipWith (fun target output => (target, output.1)) targets outputs),
    runs.flatMap Traced.log, (runs.map Traced.calls).sum⟩

section

variable (generator : Generator)

/-- The run of a target among the values of a context, as they are put together. -/
abbrev runAmong (context : Context) (target : String) : Run :=
  generator.generateAmong (.text target) (.ok (.ofContext context))

/-- A run for a target leaves the values of a context as they are, or fails. -/
def Leaves (context : Context) (target : String) : Prop :=
  ∀ output left,
    (generator.generateAmong (.text target) (.ok (.ofContext context))).result =
      .ok (output, left) → left = .ofContext context

/-- The runs for targets one after another, each among the values as those before it leave them, up
to the first one that fails. -/
def runsAmong (holding : Holding) : List String → List Run
  | [] => []
  | target :: rest =>
    let run := generator.generateAmong (.text target) (.ok holding)
    match run.result with
    | .ok (_, left) => run :: runsAmong left rest
    | .error _ => [run]

/-- A batch is what its runs come to. -/
theorem generateEach_eq_together (holding : Holding) (targets : List String)
    (done : List (String × ByteArray)) :
    generator.generateEach holding (targets.map .text) done =
      together done targets (generator.runsAmong holding targets) := by
  -- Each run adds its trace behind those before it and its source to what is done.
  induction targets generalizing holding done with
  | nil => rfl
  | cons target rest ih =>
    rw [List.map_cons, generateEach, runsAmong]
    cases generator.generateAmong (.text target) (.ok holding) with
    | mk result log calls =>
      cases result with
      -- A failure ends the batch, whatever would have followed.
      | error cause =>
        rw [Traced.error_bind]
        simp [together, Except.map, Bind.bind, Except.bind]
      -- The rest begins with the values that this run leaves.
      | ok output =>
        rw [Traced.ok_bind]
        simp only [ih, together, Value.inMessage, List.mapM_cons, List.flatMap_cons, List.map_cons,
          List.sum_cons]
        cases (generator.runsAmong output.2 rest).mapM Traced.result <;> rfl

variable {context : Context}

/-- Targets whose runs succeed and leave the values as they are run among the same values. -/
theorem runsAmong_of_ok {targets : List String} {output : String → ByteArray}
    (each : ∀ target ∈ targets,
      (generator.runAmong context target).result = .ok (output target, .ofContext context)) :
    generator.runsAmong (.ofContext context) targets =
      targets.map (generator.runAmong context) := by
  -- The induction is on the targets; none of them changes the values for the next.
  induction targets with
  | nil => rfl
  | cons target rest ih =>
    obtain ⟨first, others⟩ := List.forall_mem_cons.mp each
    simp only [runsAmong, first, ih others, List.map_cons]

/-- A target that fails is the last one to run. -/
theorem runsAmong_of_error {before : List String} {output : String → ByteArray}
    (each : ∀ target ∈ before,
      (generator.runAmong context target).result = .ok (output target, .ofContext context))
    {target : String} {cause : GenerationFault}
    (failed : (generator.runAmong context target).result = .error cause) (after : List String) :
    generator.runsAmong (.ofContext context) (before ++ target :: after) =
      (before ++ [target]).map (generator.runAmong context) := by
  -- The induction is on the targets in front, behind which the failure ends the row.
  induction before with
  | nil => simp only [List.nil_append, runsAmong, failed, List.map_cons, List.map_nil]
  | cons first rest ih =>
    obtain ⟨here, others⟩ := List.forall_mem_cons.mp each
    simp only [List.cons_append, runsAmong, here, ih others, List.map_cons]

variable {subject : Subject} (described : subject.context = .ok context)
include described

omit generator in
/-- A subject that is described holds the values of its context. -/
theorem holding_of_described : subject.holding = .ok (.ofContext context) := by
  rw [Subject.holding, described]
  rfl

/-- A run by itself is a run among the values of its subject, whatever it leaves of them. -/
theorem generate_eq_among (target : String) :
    generator.generate (.text target) subject =
      generator.runAmong context target >>= fun done => pure done.1 := by
  rw [generate, holding_of_described described]

/-- A run by itself leaves the trace of the run among the values of its subject. -/
theorem trace_generate (target : String) :
    (generator.generate (.text target) subject).log = (generator.runAmong context target).log ∧
      (generator.generate (.text target) subject).calls =
        (generator.runAmong context target).calls ∧
      (generator.generate (.text target) subject).result =
        (generator.runAmong context target).result.map (·.1) := by
  -- Of the run among the values only the result is cut short, and only where it is a success.
  rw [generate_eq_among generator described]
  cases generator.runAmong context target with
  | mk result log calls =>
    cases result with
    | error cause =>
      rw [Traced.error_bind]
      exact ⟨rfl, rfl, rfl⟩
    -- The values left are dropped, and the trace stays.
    | ok done => simp [Traced.ok_bind, Except.map, Pure.pure]

/-- A batch is what its runs come to, each among the values as those before it leave them. -/
theorem generateAll_eq_together (targets : List String) :
    generator.generateAll (.list (targets.map .text)) subject =
      together [] targets (generator.runsAmong (.ofContext context) targets) := by
  -- The values are put together once, in front of all targets.
  rw [← generateEach_eq_together]
  simp only [generateAll, holding_of_described described, checked, mapError_ok, Value.elements,
    Pure.pure, Except.pure, Traced.ofExcept_ok_bind]

/-- A run by itself that succeeds is one among the values of its subject, and when it leaves these
as they are it leaves the same ones to the next. -/
theorem result_among {target : String} {output : ByteArray}
    (leaves : generator.Leaves context target)
    (ran : (generator.generate (.text target) subject).result = .ok output) :
    (generator.runAmong context target).result = .ok (output, .ofContext context) := by
  -- The run among the values succeeds as the one by itself does, and the rest is what it leaves.
  rw [(trace_generate generator described _).2.2] at ran
  cases found : (generator.runAmong context target).result with
  | error cause =>
    rw [found] at ran
    cases ran
  | ok done =>
    rw [found] at ran
    obtain ⟨made, left⟩ := done
    obtain rfl : left = .ofContext context := leaves _ _ found
    obtain rfl : made = output := Except.ok.inj ran
    rfl

/-- A run by itself fails as it does among the values of its subject. -/
theorem error_among {target : String} {cause : GenerationFault}
    (failed : (generator.generate (.text target) subject).result = .error cause) :
    (generator.runAmong context target).result = .error cause := by
  -- Cutting a success short makes no failure of it.
  rw [(trace_generate generator described _).2.2] at failed
  cases found : (generator.runAmong context target).result with
  | error other =>
    rw [found] at failed
    exact congrArg Except.error (Except.error.inj failed)
  -- Had the run succeeded among the values, it would succeed by itself.
  | ok done =>
    rw [found] at failed
    cases failed

/-- A batch whose targets all succeed and leave the values as they are holds each target once, in
the order they first come in. -/
theorem generateAll_of_ok {targets : List String} {output : String → ByteArray}
    (each : ∀ target ∈ targets, generator.Leaves context target ∧
      (generator.generate (.text target) subject).result = .ok (output target)) :
    generator.generateAll (.list (targets.map .text)) subject =
      ⟨.ok (targets.eraseDups.map fun target => (target, output target)),
        targets.flatMap fun target => (generator.generate (.text target) subject).log,
        (targets.map fun target => (generator.generate (.text target) subject).calls).sum⟩ := by
  -- A run by itself tells of the run among the values, which it leaves as they are.
  have among : ∀ target ∈ targets,
      (generator.runAmong context target).result = .ok (output target, .ofContext context) := by
    intro target member
    obtain ⟨leaves, ran⟩ := each target member
    exact result_among generator described leaves ran
  -- All runs succeed, so their sources are there one after another.
  have results : (targets.map (generator.runAmong context)).mapM Traced.result =
      .ok (targets.map fun target => (output target, .ofContext context)) := by
    rw [List.mapM_map]
    exact mapM_eq_ok_map among
  -- A source that is given twice is the same both times, so it keeps its first place.
  rw [generateAll_eq_together generator described, runsAmong_of_ok generator among, together,
    results]
  simp only [Except.map, List.zipWith_map_right, List.zipWith_self, assignAll_map,
    List.flatMap_map, List.map_map, Function.comp_def, trace_generate generator described]

/-- A batch fails as the first target of it that fails, and leaves the traces up to there, when the
targets before it leave the values as they are. -/
theorem generateAll_of_error {before after : List String} {target : String}
    {cause : GenerationFault}
    (earlier : ∀ other ∈ before, generator.Leaves context other ∧ ∃ output,
      (generator.generate (.text other) subject).result = .ok output)
    (failed : (generator.generate (.text target) subject).result = .error cause) :
    generator.generateAll (.list ((before ++ target :: after).map .text)) subject =
      ⟨.error cause,
        (before ++ [target]).flatMap fun tried => (generator.generate (.text tried) subject).log,
        ((before ++ [target]).map fun tried =>
          (generator.generate (.text tried) subject).calls).sum⟩ := by
  -- The runs in front succeed among the same values, and what they give does not matter.
  have among : ∀ other ∈ before, ∃ output,
      (generator.runAmong context other).result = .ok (output, .ofContext context) := by
    intro other member
    obtain ⟨leaves, output, ran⟩ := earlier other member
    exact ⟨output, result_among generator described leaves ran⟩
  choose! output each using among
  have failed := error_among generator described failed
  -- The runs before the failing one succeed, so the failure is that of all of them together.
  have results : ((before ++ [target]).map (generator.runAmong context)).mapM Traced.result =
      .error cause := by
    rw [List.mapM_map, List.mapM_append, Function.comp_def, mapM_eq_ok_map each]
    simp [failed, Bind.bind, Except.bind]
  rw [generateAll_eq_together generator described, runsAmong_of_error generator each failed,
    together, results]
  simp only [Except.map, List.flatMap_map, List.map_map, Function.comp_def,
    trace_generate generator described]

/-- A batch whose first target has no template ends there. -/
theorem generateAll_of_absent {target : String}
    (absent : generator.registry.get? (Template.fileName target) = none) (after : List String) :
    (generator.generateAll (.list ((target :: after).map .text)) subject).result =
      .error (.target target (.notFound target)) := by
  -- Nothing stands in front of the first target, so nothing is asked of the others.
  have failed : (generator.generate (.text target) subject).result =
      .error (.target target (.notFound target)) := by
    rw [generate_steps, Registry.resolve_of_get?_eq_none absent]
    rfl
  have none_before : ∀ other ∈ ([] : List String), generator.Leaves context other ∧ ∃ output,
      (generator.generate (.text other) subject).result = .ok output := by
    intro other member
    cases member
  exact congrArg Traced.result (generateAll_of_error generator described none_before failed)

end

/-- A target whose template calls no methods leaves the values as they are. -/
theorem leaves_of_passive {generator : Generator} {target : String} {template : Template}
    (found : generator.registry.get? (Template.fileName target) = some template)
    (passive : (generator.shelves.shelf template.shelf).Passive template.nodes)
    (context : Context) : generator.Leaves context target := by
  -- Up to rendering, the run is made of steps that are known to succeed.
  intro output left ran
  have known : checked (.ok (Holding.ofContext context)) =
      .ofExcept (.ok (.ofContext context)) := rfl
  rw [generateAmong, Registry.resolve_of_get? found, Traced.onError_ok, known, Traced.ok_bind,
    Traced.ofExcept_ok_bind, Renderer.renderAmong_of_passive _ passive] at ran
  -- The run hands on what rendering leaves, which is what was there before.
  obtain ⟨done, rendered, reported⟩ := Traced.exists_of_bind_eq_ok ran
  obtain rfl : done = (output, left) := Except.ok.inj reported
  cases made : generator.renderer.render generator.shelves template context with
  | mk result log calls =>
    rw [made] at rendered
    cases result with
    -- A failure to render is told as one of the target, so the run would not have succeeded.
    | error cause => exact absurd rendered (renderFailed_ne_ok target cause _)
    | ok source => exact congrArg Prod.snd (Except.ok.inj rendered).symm

/-- A batch runs its targets one after another among the same values, up to the first that fails.
As long as these runs leave the values as they are, which a template that calls no methods does, a
batch is told by the single runs of its targets: all sources in the order of the targets, or the
first failure. -/
theorem generateAll_eq_runs (generator : Generator) {subject : Subject} {context : Context}
    (described : subject.context = .ok context) (targets : List String) :
    generator.generateAll (.list (targets.map .text)) subject =
      together [] targets (generator.runsAmong (.ofContext context) targets) ∧
    (∀ (target : String) (template : Template),
      generator.registry.get? (Template.fileName target) = some template →
      (generator.shelves.shelf template.shelf).Passive template.nodes →
      generator.Leaves context target) ∧
    (∀ output : String → ByteArray,
      (∀ target ∈ targets, generator.Leaves context target ∧
        (generator.generate (.text target) subject).result = .ok (output target)) →
      generator.generateAll (.list (targets.map .text)) subject =
        ⟨.ok (targets.eraseDups.map fun target => (target, output target)),
          targets.flatMap fun target => (generator.generate (.text target) subject).log,
          (targets.map fun target => (generator.generate (.text target) subject).calls).sum⟩) ∧
    (∀ (before after : List String) (target : String) (cause : GenerationFault),
      targets = before ++ target :: after →
      (∀ earlier ∈ before, generator.Leaves context earlier ∧ ∃ output,
        (generator.generate (.text earlier) subject).result = .ok output) →
      (generator.generate (.text target) subject).result = .error cause →
      generator.generateAll (.list (targets.map .text)) subject =
        ⟨.error cause,
          (before ++ [target]).flatMap fun tried =>
            (generator.generate (.text tried) subject).log,
          ((before ++ [target]).map fun tried =>
            (generator.generate (.text tried) subject).calls).sum⟩) ∧
    ((∀ target ∈ targets, generator.Leaves context target) →
      ∀ sources, (generator.generateAll (.list (targets.map .text)) subject).result = .ok sources →
      ∀ others : List String, others.Perm targets →
        ∃ shuffled,
          (generator.generateAll (.list (others.map .text)) subject).result = .ok shuffled ∧
          shuffled.Perm sources ∧ keysOf shuffled = others.eraseDups) := by
  -- The parts are results of their own; only the last one compares two batches.
  refine ⟨generateAll_eq_together generator described targets,
    fun target template found passive => leaves_of_passive found passive context,
    fun output each => generateAll_of_ok generator described each, ?_, ?_⟩
  · rintro before after target cause rfl earlier failed
    exact generateAll_of_error generator described earlier failed
  · -- A batch that succeeds has no target that fails, in whatever order they come.
    intro leave sources made others same
    rcases all_ok_or_first_error
        (fun target => (generator.generate (.text target) subject).result) targets with
      all | ⟨before, target, after, cause, rfl, earlier, failed⟩
    · -- Each target gives one source wherever it stands, so only the places differ.
      choose! output each using all
      have kept : ∀ target ∈ targets, generator.Leaves context target ∧
          (generator.generate (.text target) subject).result = .ok (output target) :=
        fun target member => ⟨leave target member, each target member⟩
      rw [generateAll_of_ok generator described kept] at made
      cases made
      -- The other order holds the same targets, so the same is known of each.
      have moved : ∀ target ∈ others, generator.Leaves context target ∧
          (generator.generate (.text target) subject).result = .ok (output target) :=
        fun target member => kept target (same.mem_iff.mp member)
      refine ⟨_, by rw [generateAll_of_ok generator described moved], ?_, keysOf_map ..⟩
      exact (eraseDups_perm same).map _
    · -- A target that fails would have ended the batch.
      have kept : ∀ other ∈ before, generator.Leaves context other ∧ ∃ output,
          (generator.generate (.text other) subject).result = .ok output :=
        fun other member => ⟨leave other (by simp [member]), earlier other member⟩
      rw [generateAll_of_error generator described kept failed] at made
      cases made

/-- A generator of one template, which prints a title. -/
def titles : Generator :=
  ⟨⟨[("title.tpl", ⟨"title.tpl", [.print (.named "title")], 0⟩)]⟩,
    ⟨Formatter.unchanged, defaultEncoding⟩, [[]]⟩

/-- Two spellings of a target are two sources, and a name without a template ends its batch. -/
theorem generateAll_titles :
    (titles.generateAll (.list [.text "title", .text "title.tpl", .text "title"])
        (.values [("title", .text "x")])).result =
      .ok [("title", "x".toUTF8), ("title.tpl", "x".toUTF8)] ∧
    (titles.generateAll (.list [.text "title", .text "gone", .text "title"])
        (.values [("title", .text "x")])).result =
      .error (.target "gone" (.notFound "gone")) ∧
    ∃ shuffled,
      (titles.generateAll (.list [.text "title.tpl", .text "title", .text "title"])
        (.values [("title", .text "x")])).result = .ok shuffled ∧
      keysOf shuffled = ["title.tpl", "title"] := by
  have described : (Subject.values [("title", .text "x")]).context = .ok [("title", .text "x")] :=
    rfl
  -- Both spellings lead to the one template, and the third name to none.
  obtain ⟨short, long, other⟩ : Template.fileName "title" = "title.tpl" ∧
      Template.fileName "title.tpl" = "title.tpl" ∧ Template.fileName "gone" = "gone.tpl" := by
    decide
  have held : ∀ target ∈ ["title", "title.tpl", "title"],
      titles.registry.get? (Template.fileName target) =
        some ⟨"title.tpl", [.print (.named "title")], 0⟩ := by
    intro target member
    simp only [List.mem_cons, List.not_mem_nil, or_false] at member
    rcases member with rfl | rfl | rfl <;> simp [short, long, titles, Registry.get?, lookup?]
  have gone : (titles.generate (.text "gone") (.values [("title", .text "x")])).result =
      .error (.target "gone" (.notFound "gone")) := by
    have absent : titles.registry.get? (Template.fileName "gone") = none := by
      rw [other]
      rfl
    rw [generate_steps, Registry.resolve_of_get?_eq_none absent]
    rfl
  obtain ⟨-, leaves, whole, -, turned⟩ :=
    generateAll_eq_runs titles described ["title", "title.tpl", "title"]
  obtain ⟨-, -, -, ended, -⟩ := generateAll_eq_runs titles described ["title", "gone", "title"]
  -- The template calls no methods, so its runs are among the same values.
  have kept : ∀ target ∈ ["title", "title.tpl", "title"],
      titles.Leaves [("title", .text "x")] target ∧
        (titles.generate (.text target) (.values [("title", .text "x")])).result =
          .ok "x".toUTF8 :=
    fun target member => ⟨leaves target _ (held target member) (.of_closed rfl rfl _),
      congrArg Traced.result (generate_of_text (held target member) rfl rfl)⟩
  -- A batch of successes gives the same whatever the order, up to the places.
  have made := congrArg Traced.result (whole (fun _ => "x".toUTF8) kept)
  obtain ⟨shuffled, again, -, keys⟩ := turned (fun target member => (kept target member).1) _ made
    ["title.tpl", "title", "title"] (by decide)
  -- The batch that fails gets past its first target only.
  have begun : ∀ target ∈ ["title"], titles.Leaves [("title", .text "x")] target ∧ ∃ output,
      (titles.generate (.text target) (.values [("title", .text "x")])).result = .ok output := by
    intro target member
    obtain ⟨leaves, ran⟩ := kept target (by simp_all)
    exact ⟨leaves, _, ran⟩
  -- The three batches are cases of the general statement.
  exact ⟨made, congrArg Traced.result (ended ["title"] ["title"] "gone" _ rfl begun gone), shuffled,
    again, keys⟩

/-- A template that takes the last column out and prints its name. -/
def takesColumn : Template :=
  ⟨"a.tpl", [.print (.member (.call (.member (.named "columns") "pop") []) "name")], 0⟩

/-- A template that lists the columns. -/
def listsColumns : Template :=
  ⟨"b.tpl", [.print (.filter "insert_param_names" (.named "columns") [])], 0⟩

/-- A generator of both. -/
def taking : Generator :=
  ⟨⟨[("a.tpl", takesColumn), ("b.tpl", listsColumns)]⟩, ⟨Formatter.unchanged, defaultEncoding⟩,
    [[("a.tpl", "\x7b\x7b columns.pop().name \x7d\x7d"),
      ("b.tpl", "\x7b\x7b columns | insert_param_names \x7d\x7d")]]⟩

/-- A table with two columns. -/
def pairTable : TableData :=
  .ofTexts "t" [⟨"x", "", .bool false⟩, ⟨"y", "", .bool false⟩] (.text "models") []

/-- What templates see of the table. -/
def pairContext : Context :=
  textContext "t" [⟨"x", "", .bool false⟩, ⟨"y", "", .bool false⟩] (.text "models") []

/-- The second template lists both columns by itself, and only one of them among what the first one
leaves. -/
theorem text_listsColumns :
    listsColumns.text taking.shelves pairContext = .ok "x, y" ∧
      ∃ text left last,
        takesColumn.textAmong taking.shelves (.ofContext pairContext) = .ok (text, left) ∧
          listsColumns.textAmong taking.shelves left = .ok ("x", last) := by
  -- Both templates are run one after another, and only what the second one gives is computed.
  refine ⟨by decide +kernel, ?_⟩
  have shared : (takesColumn.textAmong taking.shelves (.ofContext pairContext) >>= fun done =>
      listsColumns.textAmong taking.shelves done.2 >>= fun other => .ok other.1) = .ok "x" := by
    decide +kernel
  obtain ⟨⟨text, left⟩, taken, shared⟩ := exists_of_bind_eq_ok shared
  obtain ⟨⟨_, last⟩, listed, same⟩ := exists_of_bind_eq_ok shared
  obtain rfl := Except.ok.inj same
  exact ⟨text, left, last, taken, listed⟩

/-- A column that one target takes out is not there for the next one, which lists it in a run of its
own. -/
theorem generateAll_takes_column :
    (∀ entry ∈ taking.registry.entries, ∃ source,
      lookup? entry.1 (taking.shelves.shelf entry.2.shelf) = some source ∧
        Template.compileNodes source = .ok entry.2.nodes) ∧
    (∃ output, (taking.generate (.text "a") (.table pairTable)).result = .ok output) ∧
    (taking.generate (.text "b") (.table pairTable)).result = .ok "x, y".toUTF8 ∧
    ∃ sources, (taking.generateAll (.list [.text "a", .text "b"]) (.table pairTable)).result =
      .ok sources ∧ lookup? "b" sources = some "x".toUTF8 := by
  -- Each template is found under its target, and each target has columns to begin with.
  have described : (Subject.table pairTable).context = .ok pairContext := rfl
  have first : taking.registry.get? (Template.fileName "a") = some takesColumn := rfl
  have second : taking.registry.get? (Template.fileName "b") = some listsColumns := rfl
  obtain ⟨alone, text, left, last, taken, listed⟩ := text_listsColumns
  have ran : (taking.generateAmong (.text "a") (.ok (.ofContext pairContext))).result =
      .ok (text.toUTF8, left) := generateAmong_of_text first taken
  have ran' : (taking.generateAmong (.text "b") (.ok left)).result = .ok ("x".toUTF8, last) :=
    generateAmong_of_text second listed
  -- Each run by itself begins with both columns, and the second of the batch with what is left.
  refine ⟨?_, ⟨text.toUTF8, ?_⟩, ?_, [("a", text.toUTF8), ("b", "x".toUTF8)], ?_, rfl⟩
  · -- What is on the shelf is what its source compiles to.
    simp only [taking, List.forall_mem_cons]
    exact ⟨⟨_, rfl, Template.compileNodes_of_chars rfl (by decide +kernel)⟩,
      ⟨_, rfl, Template.compileNodes_of_chars rfl (by decide +kernel)⟩, by simp⟩
  · -- The first run succeeds by itself as it does in the batch.
    rw [(trace_generate taking described _).2.2, ran]
    rfl
  · -- By itself the second run starts from the columns of the subject.
    exact congrArg Traced.result (generate_of_text second described alone)
  · -- In the batch it starts from what the first run left.
    have runs := congrArg Traced.result (generateAll_eq_together taking described ["a", "b"])
    have both : (taking.runsAmong (.ofContext pairContext) ["a", "b"]).mapM Traced.result =
        .ok [(text.toUTF8, left), ("x".toUTF8, last)] := by
      simp [runsAmong, ran, ran', Bind.bind, Except.bind, Pure.pure, Except.pure]
    rw [together, both] at runs
    exact runs

end Tablewright.Generator
