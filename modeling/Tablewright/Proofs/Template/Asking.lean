import Tablewright.Proofs.Template.Compiling
import Tablewright.Proofs.Template.Held

/-! Which files a rendering asks for: its text depends on the sources of these and of no others. -/

namespace Tablewright.Template

/-- The sources of a shelf whose file names are kept. -/
def Shelf.only (shelf : Shelf) (keep : String → Bool) : Shelf :=
  shelf.filter fun entry => keep entry.1

/-- The sources that a shelf has in common with another one. -/
def Shelf.common (shelf shelf' : Shelf) : Shelf :=
  shelf.only fun file => decide (lookup? file shelf' = lookup? file shelf)

/-- A rendering asks for a file: without the source of the file it stops there. -/
def Shelf.Asks (shelf : Shelf) (nodes : List Node) (context : Context) (file : String) : Prop :=
  (shelf.only (· != file)).text nodes context = .error (.unusable (.notAdded file))

/-- What is kept is found as before, and all else is not found. -/
theorem lookup?_only (shelf : Shelf) (keep : String → Bool) (file : String) :
    lookup? file (shelf.only keep) = if keep file then lookup? file shelf else none :=
  lookup?_filter keep file shelf

/-- A source of what two shelves have in common is one of both; what is not differs in them. -/
theorem lookup?_common (shelf shelf' : Shelf) (file : String) :
    (lookup? file (shelf.common shelf') = lookup? file shelf ∧
        lookup? file (shelf.common shelf') = lookup? file shelf') ∨
      (lookup? file (shelf.common shelf') = none ∧ lookup? file shelf' ≠ lookup? file shelf) := by
  -- A source is common when both shelves have the very same text under the name.
  rw [Shelf.common, lookup?_only]
  by_cases same : lookup? file shelf' = lookup? file shelf
  · exact .inl (by simp [same])
  · exact .inr (by simp [same])

/-- Files of the same source make the same nodes, or fail alike. -/
theorem nodes_congr {shelf shelf' : Shelf} {file : String}
    (same : lookup? file shelf = lookup? file shelf') : shelf.nodes file = shelf'.nodes file := by
  simp only [Shelf.nodes, same]

/-- A file without a source makes no nodes. -/
theorem nodes_of_absent {shelf : Shelf} {file : String} (absent : lookup? file shelf = none) :
    (shelf.nodes file).mapError RunFault.unusable = .error (.unusable (.notAdded file)) := by
  -- Nodes are made of a source, and the lookup finds none.
  simp only [Shelf.nodes, absent]
  rfl

/-- A file is missed for its own lack of a source, and not for what stands under another one. -/
theorem nodes_ne_notAdded {file other : String} (apart : other ≠ file) (shelf : Shelf) :
    (shelf.nodes other).mapError RunFault.unusable ≠ .error (.unusable (.notAdded file)) := by
  -- A fault of a missing source carries the file name that was looked up.
  intro missed
  simp only [Shelf.nodes] at missed
  cases found : lookup? other shelf with
  -- The file that is missing is the other one, and the fault says so.
  | none =>
    rw [found] at missed
    cases missed
    exact apart rfl
  | some source =>
    rw [found] at missed
    dsimp only at missed
    cases made : compileNodes source with
    | ok nodes =>
      rw [made] at missed
      cases missed
    | error cause =>
      -- A source that is there has faults of its own.
      rw [made] at missed
      cases missed
      exact present_compileNodes source _ ⟨file, rfl⟩ made

/-- Outcomes that are the same, unless the first run stops by one of certain faults. -/
theorem Lasting.sameOrStops (stops : RunFault → Prop) :
    Lasting fun r result result' =>
      SameUpTo r result result' ∨ ∃ fault, stops fault ∧ result = .error fault := by
  -- Once the first run has stopped, what the second one goes on to is no matter.
  refine ⟨fun _ same => .inl same, ?_⟩
  rintro α β γ δ r s first first' next next' (same | ⟨fault, stopped, rfl⟩) following
  · cases same with
    | error fault => exact .inl (.error fault)
    | ok pair => exact following _ _ pair
  · exact .inr ⟨fault, stopped, rfl⟩

/-- Outcomes that are the same, except that one fault of the first run is another of the second. -/
theorem Lasting.sameBut (fault fault' : CompileFault) :
    Lasting fun r result result' =>
      (SameUpTo r result result' ∧ result ≠ .error (.unusable fault)) ∨
        (result = .error (.unusable fault) ∧ result' = .error (.unusable fault')) := by
  -- A run that stops for the one fault does so for the other one in the second run.
  refine ⟨fun plain same => .inl ⟨same, plain _ ⟨fault, rfl⟩⟩, ?_⟩
  rintro α β γ δ r s first first' next next' (⟨same, other⟩ | ⟨rfl, rfl⟩) following
  · cases same with
    | error cause => exact .inl ⟨.error cause, fun same => other (by cases same; rfl)⟩
    | ok pair => exact following _ _ pair
  · exact .inr ⟨rfl, rfl⟩

section

variable {nodes : List Node} {context : Context}

/-- With sources taken off its shelf, a rendering gives the same or stops where one is missing. -/
theorem Shelf.text_eq_or_stops {bare shelf : Shelf} (nodes : List Node) (context : Context)
    (missing : String → Prop)
    (each : ∀ file, lookup? file bare = lookup? file shelf ∨
      (lookup? file bare = none ∧ missing file)) :
    bare.text nodes context = shelf.text nodes context ∨
      ∃ file, missing file ∧ bare.text nodes context = .error (.unusable (.notAdded file)) := by
  -- A file is missing, or it makes the same nodes in both runs.
  have related := (Lasting.sameOrStops fun fault =>
    ∃ file, missing file ∧ fault = .unusable (.notAdded file)).shelfText bare shelf nodes
      (fun _ file => ?_) context
  · rcases related with same | ⟨fault, ⟨file, lost, rfl⟩, stopped⟩
    · exact .inl (sameUpTo_eq_iff.mp same)
    · exact .inr ⟨file, lost, stopped⟩
  · rcases each file with same | ⟨absent, lost⟩
    · exact .inl (.of_eq (by rw [nodes_congr same]))
    · exact .inr ⟨_, ⟨file, lost, rfl⟩, nodes_of_absent absent⟩

/-- Sources that a rendering does not ask for can be exchanged, added or taken away. -/
theorem Shelf.text_eq_of_not_asks {shelf shelf' : Shelf}
    (unasked : ∀ file, lookup? file shelf' ≠ lookup? file shelf →
      ¬ shelf.Asks nodes context file) :
    shelf'.text nodes context = shelf.text nodes context := by
  -- What both shelves have in common is enough, unless a file beyond it is asked for.
  have common := lookup?_common shelf shelf'
  by_cases stops : ∃ file, lookup? file shelf' ≠ lookup? file shelf ∧
      (shelf.common shelf').text nodes context = .error (.unusable (.notAdded file))
  · obtain ⟨file, different, stopped⟩ := stops
    -- The shelf that lacks this file alone stops there too, so the file is asked for.
    have alone : ∀ other, lookup? other (shelf.common shelf') =
          lookup? other (shelf.only (· != file)) ∨
        (lookup? other (shelf.common shelf') = none ∧ other ≠ file) := by
      intro other
      rw [lookup?_only]
      rcases common other with ⟨same, same'⟩ | ⟨absent, -⟩
      · have apart : other ≠ file := by
          rintro rfl
          exact different (same'.symm.trans same)
        exact .inl (by simp [same, apart])
      · by_cases hit : other = file
        · exact .inl (by rw [absent]; simp [hit])
        · exact .inr ⟨absent, hit⟩
    rcases Shelf.text_eq_or_stops nodes context _ alone with
      same | ⟨other, apart, stopped'⟩
    · -- If only this file is missed, it is asked for, which it is not.
      exact absurd (same.symm.trans stopped) (unasked file different)
    · rw [stopped] at stopped'
      cases stopped'
      exact absurd rfl apart
  · -- Nothing beyond the common part is asked for, so both shelves give what that part gives.
    have before := Shelf.text_eq_or_stops nodes context _ fun file =>
      (common file).imp_left And.left
    have after := Shelf.text_eq_or_stops nodes context _ fun file =>
      (common file).imp_left And.right
    rw [← before.resolve_right stops, ← after.resolve_right stops]

/-- A source that makes no template stops every rendering that asks for it. -/
theorem Shelf.text_of_asks {shelf shelf' : Shelf} {file source : String} {cause : CompileFault}
    (asked : shelf.Asks nodes context file) (broken : compileNodes source = .error cause)
    (shelved : lookup? file shelf' = some source)
    (others : ∀ other, other ≠ file → lookup? other shelf' = lookup? other shelf) :
    shelf'.text nodes context = .error (.unusable cause) := by
  -- Without the file the rendering stops there, and so it does where the file is broken.
  have related := (Lasting.sameBut (.notAdded file) cause).shelfText
    (shelf.only (· != file)) shelf' nodes (fun _ other => ?_) context
  · rcases related with ⟨-, goesOn⟩ | ⟨-, stopped⟩
    · exact absurd asked goesOn
    · exact stopped
  · by_cases hit : other = file
    · -- The file is what the one shelf lacks and the other one cannot use.
      subst hit
      refine .inr ⟨nodes_of_absent (by rw [lookup?_only]; simp), ?_⟩
      simp only [Shelf.nodes, shelved, broken]
      rfl
    · -- Every other file is on both shelves, with one source.
      have same : lookup? other (shelf.only (· != file)) = lookup? other shelf' := by
        rw [lookup?_only, others other hit]
        simp [hit]
      exact .inl ⟨.of_eq (by rw [nodes_congr same]), nodes_ne_notAdded hit _⟩

end

/-- Nodes that insert nothing ask for no file. -/
theorem Shelf.not_asks_of_not_inserts {nodes : List Node} (closed : anyInserts nodes = false)
    (shelf : Shelf) (context : Context) (file : String) : ¬ shelf.Asks nodes context file := by
  -- The run on the shelf without the file is compared with itself.
  intro asked
  -- No fault of a file can show where none is inserted, so the one at hand would be another one.
  rcases (Lasting.sameBut (.notAdded file) .assignsLoop).shelfText
    (shelf.only (· != file)) (shelf.only (· != file)) nodes
    (fun may => absurd may (by simp [closed])) context with ⟨-, goesOn⟩ | ⟨-, other⟩
  · exact goesOn asked
  · rw [asked] at other
    cases other

end Tablewright.Template
