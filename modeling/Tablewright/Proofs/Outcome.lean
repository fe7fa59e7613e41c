import Tablewright.Log.Traced

/-! Outcomes that succeed: taken over under another fault, and one after another along a list. -/

namespace Tablewright

/-- A success is taken over as it is, whatever faults are told as. -/
@[simp] theorem mapError_ok (tell : ε → δ) (value : α) :
    (Except.ok value : Except ε α).mapError tell = .ok value := rfl

/-- What succeeds under other faults succeeds under its own. -/
theorem eq_ok_of_mapError {tell : ε → δ} {result : Except ε α} {value : α}
    (told : result.mapError tell = .ok value) : result = .ok value := by
  -- Only faults are told otherwise, so a success cannot come from one.
  cases result with
  | error cause => cases told
  | ok found => exact congrArg Except.ok (Except.ok.inj told)

/-- An outcome that leaves a value when its fault is forgotten is a success. -/
theorem exists_ok_of_isSome {result : Except ε α} (present : result.toOption.isSome) :
    ∃ value, result = .ok value := by
  cases result with
  | error cause => cases present
  | ok value => exact ⟨value, rfl⟩

/-- A run over elements that all succeed succeeds with all their results. -/
theorem mapM_eq_ok_map {f : α → Except ε β} {g : α → β} {elements : List α}
    (each : ∀ element ∈ elements, f element = .ok (g element)) :
    elements.mapM f = .ok (elements.map g) := by
  -- The run stops at no element, so every result is kept in its place.
  induction elements with
  | nil => rfl
  | cons first rest ih =>
    have head := each first (by simp)
    have tail := ih fun element member => each element (by simp [member])
    simp [List.mapM_cons, head, tail, Bind.bind, Except.bind, Pure.pure, Except.pure]

/-- A run that succeeds succeeded with its first step and went on from there. -/
theorem exists_of_bind_eq_ok {first : Except ε α} {next : α → Except ε β} {value : β}
    (ran : (first >>= next) = .ok value) :
    ∃ passed, first = .ok passed ∧ next passed = .ok value := by
  -- A step that fails ends the run.
  cases first with
  | error cause => cases ran
  | ok passed => exact ⟨passed, rfl, ran⟩

/-- What every step of a run keeps holds behind the run when it held before. -/
theorem foldlM_keeps {step : α → β → Except ε α} (holds : α → Prop)
    (keeps : ∀ state element next, holds state → step state element = .ok next → holds next)
    {elements : List β} {state last : α} (ran : elements.foldlM step state = .ok last)
    (held : holds state) : holds last := by
  -- The induction is on the elements, with the state as it is in front of the next step.
  induction elements generalizing state with
  | nil =>
    obtain rfl : state = last := Except.ok.inj ran
    exact held
  | cons element rest ih =>
    rw [List.foldlM_cons] at ran
    obtain ⟨next, stepped, ran⟩ := exists_of_bind_eq_ok ran
    -- The rest of the run begins with a state for which it holds.
    exact ih ran (keeps state element next held stepped)

/-- A result is no fault of a kind. -/
def Avoids (bad : ε → Prop) (result : Except ε α) : Prop :=
  ∀ fault, bad fault → result ≠ .error fault

/-- A success is no fault. -/
theorem avoids_ok (bad : ε → Prop) (value : α) : Avoids bad (.ok value : Except ε α) :=
  fun _ _ same => by cases same

/-- Another fault is none of a kind. -/
theorem avoids_error {bad : ε → Prop} {cause : ε} (good : ¬ bad cause) :
    Avoids bad (.error cause : Except ε α) := by
  -- To be one of the kind it would have to be the same fault.
  intro fault isBad same
  cases same
  exact good isBad

/-- Steps without a fault of a kind make a run without one. -/
theorem Avoids.bind {bad : ε → Prop} {first : Except ε α} {next : α → Except ε β}
    (begun : Avoids bad first) (following : ∀ value, Avoids bad (next value)) :
    Avoids bad (first >>= next) := by
  -- The run fails as its first step does, or as what follows.
  cases first with
  | error cause => exact fun fault isBad same => begun fault isBad (by cases same; rfl)
  | ok value => exact following value

/-- Outcomes that are one and the same fault, or values that correspond. -/
inductive SameUpTo (corresponds : α → β → Prop) : Except ε α → Except ε β → Prop where
  | error (cause : ε) : SameUpTo corresponds (.error cause) (.error cause)
  | ok {value : α} {value' : β} (pair : corresponds value value') :
    SameUpTo corresponds (.ok value) (.ok value')

/-- Steps of such outcomes make a run of such an outcome. -/
theorem SameUpTo.bind {corresponds : α → β → Prop} {corresponds' : γ → δ → Prop}
    {first : Except ε α} {first' : Except ε β} {next : α → Except ε γ} {next' : β → Except ε δ}
    (begun : SameUpTo corresponds first first')
    (following : ∀ value value', corresponds value value' →
      SameUpTo corresponds' (next value) (next' value')) :
    SameUpTo corresponds' (first >>= next) (first' >>= next') := by
  -- A fault ends both runs, and values that correspond go on to what is the same.
  cases begun with
  | error cause => exact .error cause
  | ok pair => exact following _ _ pair

/-- An outcome is the same as itself. -/
theorem SameUpTo.eq (outcome : Except ε α) : SameUpTo (· = ·) outcome outcome := by
  cases outcome with
  | error cause => exact .error cause
  | ok value => exact .ok rfl

/-- What follows on one and the same outcome is the same when it is so for every value. -/
theorem SameUpTo.andThen {corresponds : γ → δ → Prop} (outcome : Except ε α)
    {next : α → Except ε γ} {next' : α → Except ε δ}
    (following : ∀ value, SameUpTo corresponds (next value) (next' value)) :
    SameUpTo corresponds (outcome >>= next) (outcome >>= next') :=
  (SameUpTo.eq outcome).bind fun value _ same => same ▸ following value

/-- Outcomes that are equal are the same. -/
theorem SameUpTo.of_eq {outcome outcome' : Except ε α} (same : outcome = outcome') :
    SameUpTo (· = ·) outcome outcome' :=
  same ▸ SameUpTo.eq outcome

/-- Outcomes that are the same up to values that are equal are equal. -/
theorem SameUpTo.eq_of {corresponds : α → α → Prop} {outcome outcome' : Except ε α}
    (same : SameUpTo corresponds outcome outcome')
    (equal : ∀ value value', corresponds value value' → value = value') : outcome = outcome' := by
  -- Faults are the same to begin with.
  cases same with
  | error cause => rfl
  | ok pair => exact congrArg Except.ok (equal _ _ pair)

/-- Outcomes are the same just when they are equal. -/
theorem sameUpTo_eq_iff {outcome outcome' : Except ε α} :
    SameUpTo (· = ·) outcome outcome' ↔ outcome = outcome' :=
  ⟨fun same => same.eq_of fun _ _ => id, SameUpTo.of_eq⟩

/-- Values that correspond in one way may do so in a weaker one. -/
theorem SameUpTo.imp {corresponds corresponds' : α → β → Prop} {outcome : Except ε α}
    {outcome' : Except ε β} (same : SameUpTo corresponds outcome outcome')
    (weaker : ∀ value value', corresponds value value' → corresponds' value value') :
    SameUpTo corresponds' outcome outcome' := by
  cases same with
  | error cause => exact .error cause
  | ok pair => exact .ok (weaker _ _ pair)

/-- Equal outcomes of what corresponding values are read as. -/
theorem SameUpTo.map_eq {corresponds : α → β → Prop} {outcome : Except ε α} {outcome' : Except ε β}
    {read : α → γ} {read' : β → γ} (same : SameUpTo corresponds outcome outcome')
    (reads : ∀ value value', corresponds value value' → read value = read' value') :
    (outcome >>= fun value => .ok (read value)) = outcome' >>= fun value => .ok (read' value) := by
  cases same with
  | error cause => rfl
  | ok pair => exact congrArg Except.ok (reads _ _ pair)

/-- Runs over a list all succeed, or there is a first one among them that fails. -/
theorem all_ok_or_first_error (f : α → Except ε β) (elements : List α) :
    (∀ element ∈ elements, ∃ value, f element = .ok value) ∨
      ∃ before element after cause, elements = before ++ element :: after ∧
        (∀ earlier ∈ before, ∃ value, f earlier = .ok value) ∧ f element = .error cause := by
  induction elements with
  | nil => exact .inl (by simp)
  | cons first rest ih =>
    cases ran : f first with
    -- A failure of the first is the first failure.
    | error cause => exact .inr ⟨[], first, rest, cause, rfl, by simp, ran⟩
    | ok value =>
      -- The first run succeeds, so it decides nothing and only joins those before a failure.
      rcases ih with all | ⟨before, element, after, cause, split, earlier, failed⟩
      · exact .inl (List.forall_mem_cons.mpr ⟨⟨value, ran⟩, all⟩)
      · exact .inr ⟨first :: before, element, after, cause, by rw [split, List.cons_append],
          List.forall_mem_cons.mpr ⟨⟨value, ran⟩, earlier⟩, failed⟩

end Tablewright
