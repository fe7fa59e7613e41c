import Tablewright.Proofs.Log.Traced
import Tablewright.Proofs.Outcome
import Tablewright.Proofs.Template.Alike
import Tablewright.Registry

/-! Registries made from sources: what they hold and what is reported of them. -/

namespace Tablewright

deriving instance DecidableEq for Template
deriving instance DecidableEq for Registry

namespace Registry

/-- A name with a template is resolved to it without a report. -/
theorem resolve_of_get? {registry : Registry} {name : String} {template : Template}
    (found : registry.get? (Template.fileName name) = some template) :
    registry.resolve (.text name) = ⟨.ok template, [], 0⟩ := by
  have called : Template.fileNameOf (.text name) = .ok (Template.fileName name) := rfl
  simp [resolve, called, found, Pure.pure]

/-- A name without a template fails as that name, and the failed lookup is reported. -/
theorem resolve_of_get?_eq_none {registry : Registry} {name : String}
    (absent : registry.get? (Template.fileName name) = none) :
    registry.resolve (.text name) =
      ⟨.error (.notFound name), [⟨.debug, .templates, "Template lookup failed: " ++ name⟩], 0⟩ := by
  have called : Template.fileNameOf (.text name) = .ok (Template.fileName name) := rfl
  simp [resolve, called, absent, Value.inMessage, Traced.report_bind, Traced.fail]

/-- A name is resolved to a template exactly when the template is found under its file name. -/
theorem resolve_eq_ok_iff {registry : Registry} {name : String} {template : Template} :
    (registry.resolve (.text name)).result = .ok template ↔
      registry.get? (Template.fileName name) = some template := by
  -- Looking a name up is looking its file name up, and what is found is given as it is.
  cases found : registry.get? (Template.fileName name) with
  | none => simp [resolve_of_get?_eq_none found]
  | some held => simp [resolve_of_get? found]

/-- Sources that all compile, under file names of their own, make a registry and one report. -/
theorem ofSources_of_compiled {shelves after : Shelves} {place : Nat} {sources : Sources}
    {entries : List (String × Template)} {registry : Registry}
    (compiled : sources.foldl (Compiling.add place) ⟨shelves, .ok []⟩ = ⟨after, .ok entries⟩)
    (made : ofEntries entries = .ok registry) :
    ofSources shelves place sources =
      (after, ⟨.ok registry, [⟨.debug, .templates, compiledMessage entries.length⟩], 0⟩) := by
  -- Both stages succeed, and the report between them is the only record.
  simp only [ofSources, compiled, made, Traced.liftM_eq_ofExcept, Traced.ofExcept_ok_bind,
    Traced.report_bind]
  rfl

end Registry

end Tablewright
