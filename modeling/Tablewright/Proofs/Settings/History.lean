import Tablewright.Proofs.Settings.Loading

/-! Whatever was done in a session, settings are loaded as in a new one. -/

namespace Tablewright.Session

section

variable {session : Session} (good : Good session)
include good

/-- What is taken from a session is there. -/
theorem proper_of_overrides? {source : Source} {overrides : Overrides}
    (taken : session.overrides? source = some overrides) : overrides.Proper session.cells := by
  -- Nothing is taken from a session but what one of its names or one of its cells holds.
  cases source with
  | given value =>
    cases taken
    trivial
  | thing name =>
    simp only [overrides?] at taken
    split at taken
    · rename_i held there
      cases taken
      exact good.proper name _ there held (List.mem_singleton_self held)
    · cases taken
  -- A part is found either in the thing itself or behind a cell that it leads to.
  | part name field =>
    simp only [overrides?] at taken
    obtain ⟨thing, there, taken⟩ := Option.bind_eq_some_iff.mp taken
    obtain ⟨held, found, same⟩ := Option.bind_eq_some_iff.mp taken
    cases same
    obtain ⟨outcome, ran, reach⟩ := run_part session field thing
    rw [ran] at found
    cases outcome with
    | error cause => cases found
    | ok other =>
      cases found
      rcases reach held rfl with root | ⟨shape, member, part⟩
      · exact good.proper name thing there held root
      · exact good.sound.proper shape member held part

/-- A load, whether it fails or not, gives at most the one name. -/
theorem moved_load (name : String) (manager : Manager) (source : Source) (file : Value) :
    Moved session (session.after (.load name manager source file)) (some name) := by
  -- A load whose overrides are not there is no move at all.
  rw [after]
  cases taken : session.overrides? source with
  | none => exact Moved.refl good _
  -- What is taken is there, so the load is one in a good session.
  | some overrides =>
    obtain ⟨outcome, session', ran, loaded⟩ :=
      run_load good (proper_of_overrides? good taken) name manager file
    simp only [behind, ran]
    exact loaded.moved

/-- What a move can do at most. -/
theorem moved_after (move : Move) : Moved session (session.after move) move.binds := by
  -- One lemma for each kind of move; both ways to grow a setting share theirs.
  cases move with
  | keep name value => exact moved_keep good name value
  | load name manager source file => exact moved_load good name manager source file
  | make name fields => exact moved_make good name fields
  | append | put => exact moved_of_target good rfl
  | write path entry => exact moved_write good path entry

/-- No moves lead out of the good sessions. -/
theorem good_run (moves : List Move) : Good (session.run moves) := by
  -- The induction is on the moves, where each one keeps the session good.
  induction moves generalizing session with
  | nil => exact good
  | cons move moves ih => exact ih ((moved_after good move).good good)

end

/-- What it gives to load settings, as plain values. -/
def outcome (session : Session) (name : String) (manager : Manager) (overrides : Overrides)
    (file : Value) : Except SettingsFault Settings :=
  match (load name manager overrides file).run.run session with
  | (.ok own, session') => .ok (own.map session'.plain)
  | (.error cause, _) => .error cause

/-- In a good session, settings are loaded as plain values give them. -/
theorem outcome_eq_load {session : Session} (good : Good session) {overrides : Overrides}
    (proper : overrides.Proper session.cells) (name : String) (manager : Manager) (file : Value) :
    session.outcome name manager overrides file =
      Settings.load session.files (session.given overrides) file := by
  -- The run ends in settings that show the plain ones, or in the same fault.
  obtain ⟨ended, session', ran, loaded⟩ := run_load good proper name manager file
  have same := loaded.same
  rw [outcome, ran]
  generalize Settings.load session.files (session.given overrides) file = plain at same ⊢
  cases same with
  -- A fault is the same one on both sides.
  | error cause => rfl
  | ok pair => exact congrArg Except.ok pair

/-- What it gives to load settings over what is taken from a session, if that is there. -/
def loaded? (session : Session) (name : String) (manager : Manager) (source : Source)
    (file : Value) : Option (Except SettingsFault Settings) :=
  (session.overrides? source).map fun overrides => session.outcome name manager overrides file

/-- The plain value of what is taken from a session, if it is there. -/
def given? (session : Session) (source : Source) : Option Value :=
  (session.overrides? source).map session.given

/-- The plain value of a part of a thing, if there is such a part. -/
def plainPart? (session : Session) (field : String) : Thing → Option Value
  | .settings own => lookup? field (own.map session.plain).entries
  | .value whole =>
    match (session.plain whole).shape with
    | .record entries => lookup? field entries
    | _ => none

/-- The plain value of a part is the part of the plain value. -/
theorem plain_part {session : Session} (good : Good session) (field : String) (thing : Thing)
    (proper : ∀ root ∈ thing.roots, root.Proper session.cells) :
    ((part field thing).run.run session).1.toOption.map session.plain =
      session.plainPart? field thing := by
  -- The part is looked up in the thing, and in its plain value.
  cases thing with
  -- A setting is looked up among the entries, and taking plain values keeps their keys.
  | settings own =>
    have entries : (own.map session.plain).entries =
        own.entries.map (Prod.map id session.plain) := rfl
    rw [run_part_settings, plainPart?, entries, lookup?_map]
    cases lookup? field own.entries <;> rfl
  -- A value has parts when it is a record one level deep, and so has its plain value.
  | value whole =>
    have level := good.sound.shape_value (proper whole (List.mem_singleton_self whole))
    simp only [part, plainPart?, plain]
    rw [run_bind_ok run_get, level]
    cases whole.shape session.cells with
    | leaf value => rfl
    | list items => rfl
    | record entries =>
      simp only [Shape.map, lookup?_map]
      cases lookup? field entries <;> rfl

/-- What is taken from a thing, or from a part of it, is told by the plain value of the thing. -/
theorem given?_part {session : Session} (good : Good session) (name field : String) :
    session.given? (.part name field) =
      (lookup? name session.things).bind (session.plainPart? field) := by
  -- Where nothing goes by the name, neither side takes anything.
  cases there : lookup? name session.things with
  | none => simp [given?, overrides?, there]
  | some thing =>
    have found := plain_part good field thing (good.proper name thing there)
    simp only [given?, overrides?, there, Option.bind_eq_bind, Option.bind_some]
    rw [← found]
    -- The part is there or not; its plain value is what is taken.
    generalize ((part field thing).run.run session).1.toOption = held
    cases held <;> rfl

/-- In a good session, settings are loaded over the plain value of what is taken from it. -/
theorem loaded?_eq_map {session : Session} (good : Good session) (name : String)
    (manager : Manager) (source : Source) (file : Value) :
    session.loaded? name manager source file =
      (session.given? source).map fun set => Settings.load session.files set file := by
  -- What is taken from a session is there, so the load is one over a plain value.
  rw [loaded?, given?, Option.map_map]
  cases taken : session.overrides? source with
  | none => rfl
  | some overrides =>
    have proper := proper_of_overrides? good taken
    exact congrArg some (outcome_eq_load good proper name manager file)

/-- The name that something is taken from. -/
def Source.name? : Source → Option String
  | .given _ => none
  | .thing name | .part name _ => some name

/-- What has the same plain value in two sessions is taken from both alike. -/
theorem given?_congr {session session' : Session} (good : Good session) (good' : Good session')
    (source : Source)
    (same : ∀ name ∈ source.name?, lookup? name session'.things = lookup? name session.things ∧
      ∀ thing, lookup? name session.things = some thing →
        session'.shown thing = session.shown thing) :
    session'.given? source = session.given? source := by
  -- What is taken is a given value, a thing, or a part of one.
  cases source with
  | given value => rfl
  | thing name =>
    obtain ⟨there, plain⟩ := same name rfl
    simp only [given?, overrides?, there]
    cases found : lookup? name session.things with
    | none => rfl
    | some thing =>
      cases thing with
      | settings own => rfl
      | value held =>
        exact congrArg some (plain _ found)
  -- A part is told by the plain value of the thing, and that is the same in both sessions.
  | part name field =>
    obtain ⟨there, plain⟩ := same name rfl
    rw [given?_part good', given?_part good, there]
    refine Option.bind_congr fun thing found => ?_
    have shown := plain thing found
    cases thing with
    | value whole =>
      have plain : session'.plain whole = session.plain whole := shown
      rw [plainPart?, plainPart?, plain]
    | settings own => rw [plainPart?, plainPart?, Value.record.inj shown]

/-- A session with the same values and files where no manager was used. -/
def renewed (session : Session) : Session := { session with managers := [] }

/-- Without managers a good session is good. -/
theorem Good.renewed {session : Session} (good : Good session) : Good session.renewed :=
  ⟨good.sound, good.proper, by simp [Session.renewed]⟩

/-- Whatever was done in a session, every manager loads settings as plain values and files give
them, and as any manager loads them that was not used before. -/
theorem load_as_anew (moves : List Move) (name : String) (manager : Manager) (source : Source)
    (file : Value) :
    let session := run {} moves
    session.loaded? name manager source file =
        (session.given? source).map (fun set => Settings.load session.files set file) ∧
      ∀ other manager', session.renewed.loaded? other manager' source file =
        session.loaded? name manager source file := by
  -- Whatever was done before, the session is good.
  intro session
  have good : Good session := good_run good_empty moves
  have here := loaded?_eq_map good name manager source file
  refine ⟨here, fun other manager' => ?_⟩
  -- The same values are taken and the same file is read, and the managers play no part in either.
  have given : session.renewed.given? source = session.given? source :=
    given?_congr good good.renewed source fun _ _ => ⟨rfl, fun _ _ => rfl⟩
  rw [here, loaded?_eq_map good.renewed other manager' source file, given]
  rfl

end Tablewright.Session
