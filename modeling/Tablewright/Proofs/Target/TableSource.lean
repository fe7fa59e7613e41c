import Tablewright.Proofs.Generation.Batch
import Tablewright.Proofs.Generation.Reports
import Tablewright.Proofs.Registry.Conservative
import Tablewright.Proofs.Target.Warnings

/-! Source for one table in one call: what is doubtful is told first, and then it is a batch. -/

namespace Tablewright

/-- A report that is of use in tracing a run alone. -/
def LogEntry.ForTracing (entry : LogEntry) : Prop := entry.level = .debug

end Tablewright

namespace Tablewright.Target

open Template TableGenerator

/-- Targets as they are given: names in a row, or none at all. -/
def givenTargets : Option (List String) → Value
  | none => .null
  | some targets => .list (targets.map .text)

/-- The targets that are generated: those given, or the configured ones when none are. -/
def targetsOr (configured : Value) : Option (List String) → Value
  | none | some [] => configured
  | some targets => .list (targets.map .text)

/-- The report of a warning about a table. -/
def warningReport (warning : String) : LogEntry := ⟨.warning, .package, warning⟩

/-- A single report for tracing is one. -/
theorem forTracing_report (origin : Origin) (message : String) :
    (Traced.report .debug origin message : Traced ε Unit).Reports LogEntry.ForTracing :=
  Traced.reports_report rfl

/-- To make a generator reports nothing but what is of use in tracing it. -/
theorem forTracing_create (host : Host) (settings : Settings) (formatter : Option Formatter)
    (extra : Sources) :
    (create host settings formatter extra).Reports LogEntry.ForTracing := by
  -- A registry reports how many templates were compiled, once it is built.
  have built : ∀ shelves place sources,
      (Registry.ofSources shelves place sources).2.Reports LogEntry.ForTracing := by
    intro shelves place sources
    exact (Traced.reports_ofExcept _).bind fun compiled =>
      (forTracing_report _ _).bind fun _ => Traced.reports_ofExcept _
  have grown : ∀ (registry : Registry) shelves place sources,
      (registry.extended shelves place sources).2.Reports LogEntry.ForTracing := by
    intro registry shelves place sources
    unfold Registry.extended
    split
    · exact (built shelves place sources).bind fun _ => Traced.reports_ofExcept _
    · exact Traced.reports_fail _
  have held : (registry extra).2.Reports LogEntry.ForTracing := by
    have builtIn := built [[]] ownShelf builtIn
    unfold registry
    -- Only the reports of compiling matter here, so the sources are put out of sight.
    generalize Registry.ofSources [[]] ownShelf Target.builtIn = outcome at builtIn ⊢
    obtain ⟨shelves, compiled⟩ := outcome
    dsimp only
    split
    · exact builtIn
    · exact builtIn
    · exact builtIn.bind fun _ => grown _ _ _ _
  -- Making the generator adds one report of its own.
  unfold create
  exact held.bind fun registry => (forTracing_report _ _).bind fun _ => Traced.reports_pure _

/-- Reporting warnings succeeds and leaves them in their order, each as it is. -/
theorem reportWarnings_bind (said : List String) (next : Unit → Traced GenerationFault α) :
    (reportWarnings said >>= next) =
      ⟨(next ()).result, said.map warningReport ++ (next ()).log, (next ()).calls⟩ := by
  -- Each warning is reported in front of all that is reported behind it.
  induction said with
  | nil => rw [reportWarnings, pure_bind, List.map_nil, List.nil_append]
  | cons warning rest ih =>
    rw [reportWarnings, bind_assoc, Traced.report_bind, ih]
    rfl

section

variable {maker : TableGenerator}

/-- The targets are chosen without a fault, and only an empty choice leaves it to the settings. -/
theorem chosenTargets_givenTargets (targets : Option (List String)) :
    maker.chosenTargets (givenTargets targets) =
      .ok (targetsOr maker.settings.targets targets) := by
  -- No targets and an empty list of them both leave the choice to the settings.
  cases targets with
  | none => rfl
  | some names => cases names <;> rfl

variable {package : String} {imports : List String}
  (named : maker.settings.packageName = .text package)
  (listed : maker.settings.imports = .list (imports.map .text))
include named listed

/-- A table of texts is described with the package and the imports of the settings. -/
theorem describe_texts (table : String) (columns : List TextColumn) :
    maker.describe (.text table) (.list (columns.map TextColumn.value)) =
      .ok (.ofTexts table columns (.text package) imports) := by
  rw [TableGenerator.describe, named, listed]
  rfl

/-- Source for a table of texts is that of a batch, behind the warnings about the table. -/
theorem generateTable_texts (table : String) (columns : List TextColumn)
    (targets : Option (List String)) :
    ∃ said,
      ((TableData.ofTexts table columns (.text package) imports).context >>= warnings) =
        .ok said ∧
      let batch := maker.generator.generateAll (targetsOr maker.settings.targets targets)
        (.table (.ofTexts table columns (.text package) imports))
      maker.generateTable (.text table) (.list (columns.map TextColumn.value))
          (givenTargets targets) =
        ⟨batch.result, said.map warningReport ++ batch.log, batch.calls⟩ := by
  -- Nothing fails before the batch: texts are described, seen by templates and judged.
  have described := describe_texts named listed table columns
  obtain ⟨paths, -, seen⟩ := context_ofTexts table columns (.text package) imports
  obtain ⟨said, judged, -⟩ := warnings_textContext table columns (.text package) paths
  refine ⟨said, by rw [seen]; exact judged, ?_⟩
  have context : (Subject.table (.ofTexts table columns (.text package) imports)).context =
      .ok (textContext table columns (.text package) paths) := seen
  -- All steps in front of the batch succeed, and only the warnings are reported there.
  simp only [TableGenerator.generateTable, described, context, judged,
    chosenTargets_givenTargets, checked, mapError_ok, Traced.ofExcept_ok_bind,
    reportWarnings_bind]

end

/-- A generator keeps its settings, formats as it was told or by their command, and to make it
reports nothing but what is of use in tracing it. -/
theorem of_createGiven {host : Host} {given : GivenSettings} {formatter : Option Formatter}
    {extra : Sources} {making : Traced RegistryFault TableGenerator} {maker : TableGenerator}
    (had : createGiven host given formatter extra = .ok making)
    (made : making.result = .ok maker) :
    given.load = .ok maker.settings ∧
    maker.generator.renderer.formatter =
      formatter.getD (Formatter.command host maker.settings.formatCommand) ∧
    making.Reports LogEntry.ForTracing := by
  -- The settings are loaded first, and making the generator keeps them.
  obtain ⟨settings, loaded, rest⟩ := exists_of_bind_eq_ok had
  have same : create host settings formatter extra = making := Except.ok.inj rest
  subst same
  have tracing := forTracing_create host settings formatter extra
  obtain ⟨registry, -, rfl⟩ := create_eq_ok_iff.mp made
  exact ⟨loaded, rfl, tracing⟩

/-- Of reports for tracing, warnings, and reports that are no warnings, the warnings are left. -/
theorem filter_reports {before behind : List LogEntry} (said : List String)
    (tracing : ∀ entry ∈ before, entry.ForTracing) (calm : ∀ entry ∈ behind, entry.NoWarning) :
    (before ++ (said.map warningReport ++ behind)).filter (fun entry => entry.level = .warning) =
      said.map warningReport := by
  -- The three rows of reports are gone through one by one.
  have early : before.filter (fun entry => entry.level = .warning) = [] := by
    rw [List.filter_eq_nil_iff]
    intro entry member warns
    have traced : entry.level = .debug := tracing entry member
    rw [traced] at warns
    cases warns
  have late : behind.filter (fun entry => entry.level = .warning) = [] := by
    rw [List.filter_eq_nil_iff]
    intro entry member warns
    exact calm entry member (of_decide_eq_true warns)
  have kept : (said.map warningReport).filter (fun entry => entry.level = .warning) =
      said.map warningReport := by
    rw [List.filter_eq_self]
    intro entry member
    obtain ⟨warning, -, rfl⟩ := List.mem_map.mp member
    rfl
  -- Of the three rows only the one in the middle is left.
  rw [List.filter_append, List.filter_append, early, late, kept, List.nil_append, List.append_nil]

/-- Source for one table in one call is what a batch over the chosen targets gives; warnings stop
nothing, and they are reported as they are, in front of all that the batch reports. -/
theorem generateTable_warns_then_generates {host : Host} {given : GivenSettings}
    {formatter : Option Formatter} {making : Traced RegistryFault TableGenerator}
    {maker : TableGenerator} (had : createGiven host given formatter [] = .ok making)
    (made : making.result = .ok maker) {package : String} {imports : List String}
    (named : maker.settings.packageName = .text package)
    (listed : maker.settings.imports = .list (imports.map .text))
    (table : String) (columns : List TextColumn) (targets : Option (List String)) :
    ∃ data context said,
      maker.describe (.text table) (.list (columns.map TextColumn.value)) = .ok data ∧
      data.context = .ok context ∧ warnings context = .ok said ∧
      let run := maker.generateTable (.text table) (.list (columns.map TextColumn.value))
        (givenTargets targets)
      let batch := maker.generator.generateAll (targetsOr maker.settings.targets targets)
        (.table data)
      let reports := making.log ++ run.log
      given.load = .ok maker.settings ∧
      run.result = batch.result ∧ run.calls = batch.calls ∧
      (∃ before, reports = before ++ said.map warningReport ++ batch.log ∧
        ∀ entry ∈ before, entry.level = .debug) ∧
      ((∀ own, formatter = some own → own.NeverWarns) →
        (reports.filter fun entry => entry.level = .warning).map
            (fun entry => (entry.origin.logger, entry.message)) =
          said.map fun warning => ("boilergen", warning)) := by
  -- The parts of the run are known: making the generator, describing, warning, and the batch.
  obtain ⟨loaded, formats, tracing⟩ := of_createGiven had made
  obtain ⟨paths, -, seen⟩ := context_ofTexts table columns (.text package) imports
  obtain ⟨said, judged, ran⟩ := generateTable_texts named listed table columns targets
  rw [seen] at judged
  refine ⟨_, _, said, describe_texts named listed table columns, seen, judged, ?_⟩
  rw [ran]
  refine ⟨loaded, rfl, rfl, ⟨_, (List.append_assoc ..).symm, tracing⟩, fun quiet => ?_⟩
  -- Neither making the generator nor the batch warns, so the warnings are those said here.
  have calm : maker.generator.renderer.formatter.NeverWarns := by
    rw [formats]
    cases formatter with
    | none => exact Formatter.neverWarns_command host _
    | some own => exact quiet own rfl
  -- The warnings that are left say what was said, word by word.
  rw [filter_reports said tracing (Generator.noWarning_generateAll calm _ _), List.map_map]
  rfl

/-- A column whose name cannot be that of a field, and which has no type. -/
def percentColumn : TextColumn := ⟨"50%", "", .bool false⟩

/-- Warnings come as they are, and a batch that fails at its first target takes none back. -/
theorem generateTable_select :
    ∃ making maker,
      createGiven plainHost (.overrides .null) (some Formatter.unchanged) [] = .ok making ∧
      making.result = .ok maker ∧
      let run := maker.generateTable (.text "select")
        (.list ([percentColumn].map TextColumn.value)) (givenTargets (some ["gone", "delete"]))
      run.result = .error (.target "gone" (.notFound "gone")) ∧
      ((making.log ++ run.log).filter fun entry => entry.level = .warning).map
          (fun entry => (entry.origin.logger, entry.message)) =
        [("boilergen", "Table select: 'select' is a Go reserved word"),
          ("boilergen", "Column select.50%: '50%' is not a valid Go identifier"),
          ("boilergen", "Column select.50% has no Go type")] := by
  -- The generator is made once, and the run is told by the general statement.
  have loaded : GivenSettings.load (.overrides .null) = .ok Settings.default := rfl
  have had : createGiven plainHost (.overrides .null) (some Formatter.unchanged) [] =
      .ok (create plainHost Settings.default (some Formatter.unchanged) []) := by
    rw [createGiven, loaded]
    rfl
  have made := create_builtIn plainHost Settings.default Formatter.unchanged
  have listed : Settings.default.imports = .list (([] : List String).map .text) := rfl
  refine ⟨_, _, had, made, ?_⟩
  obtain ⟨data, context, said, described, seen, judged, -, result, -, -, warned⟩ :=
    generateTable_warns_then_generates had made rfl listed "select"
      [percentColumn] (some ["gone", "delete"])
  -- What the table is described as and warned of is worked out; the batch finds no first template.
  obtain rfl := Except.ok.inj ((describe_texts rfl listed "select" _).symm.trans described)
  have known : (Subject.table (.ofTexts "select" [percentColumn] (.text "models") [])).context =
      .ok (textContext "select" [percentColumn] (.text "models") []) := rfl
  obtain rfl := Except.ok.inj (known.symm.trans seen)
  have told : said = ["Table select: 'select' is a Go reserved word",
      "Column select.50%: '50%' is not a valid Go identifier",
      "Column select.50% has no Go type"] := by
    apply Except.ok.inj
    rw [← judged]
    decide +kernel
  subst told
  have absent : builtInRegistry.get? (fileName "gone") = none := by decide
  have stopped := Generator.generateAll_of_absent (builtInGenerator Formatter.unchanged) known
    absent ["delete"]
  refine ⟨result.trans stopped, warned ?_⟩
  -- The formatter that is given returns its source and reports nothing.
  rintro own ⟨⟩ source
  exact Traced.reports_pure _

end Tablewright.Target
