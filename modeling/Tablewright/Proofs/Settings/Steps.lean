import Tablewright.Proofs.Settings.Moves
import Tablewright.Proofs.Value.Corresponding

/-! The steps of a session: what is put under a name, made, added and written. -/

namespace Tablewright.Session

/-- Entries of all settings take the place of the settings. -/
theorem mem_of_mem_updated {settings : SettingsOf α} {entries : List (String × α)}
    (complete : ∀ name ∈ settingNames, (lookup? name entries).isSome) :
    ∀ entry ∈ (settings.updated entries).entries, entry ∈ entries := by
  -- Each of the settings is found among the entries, so no value from before is left.
  have each : ∀ name ∈ settingNames, ∀ default,
      (name, (lookup? name entries).getD default) ∈ entries := by
    intro name known default
    obtain ⟨value, found⟩ := Option.isSome_iff_exists.mp (complete name known)
    rw [found]
    exact mem_of_lookup? found
  simp only [settingNames, List.forall_mem_cons] at each
  obtain ⟨package, targets, imports, format, custom, -⟩ := each
  -- The five settings are what was found for their names.
  simp only [SettingsOf.entries, SettingsOf.updated, List.forall_mem_cons]
  exact ⟨package _, targets _, imports _, format _, custom _, by simp⟩

section

variable {session session' : Session}

/-- A change of the cells leaves the rest of a session alone. -/
theorem run_onCells {change : StateM Cells α} {cells : Cells} {result : α}
    (ran : change.run session.cells = (result, cells)) :
    (onCells change).run.run session = (.ok result, { session with cells := cells }) := by
  change (Except.ok (change.run session.cells).1,
    { session with cells := (change.run session.cells).2 }) = _
  rw [ran]

/-- A step that ends well goes on with the next one. -/
theorem run_bind_ok {step : Step α} {next : α → Step β} {value : α}
    (ran : step.run.run session = (.ok value, session')) :
    (step >>= next).run.run session = (next value).run.run session' := by
  rw [ExceptT.run_bind, run_bind_of_run ran]

/-- A step that fails ends the run. -/
theorem run_bind_error {step : Step α} {next : α → Step β} {cause : SettingsFault}
    (ran : step.run.run session = (.error cause, session')) :
    (step >>= next).run.run session = (.error cause, session') := by
  rw [ExceptT.run_bind, run_bind_of_run ran]
  rfl

/-- To ask for the session changes nothing. -/
theorem run_get : (get : Step Session).run.run session = (.ok session, session) := rfl

/-- A result that is there changes nothing. -/
theorem run_lifted (outcome : Except SettingsFault α) :
    (lifted outcome).run.run session = (outcome, session) := rfl

/-- A setting is a part of settings. -/
theorem run_part_settings (session : Session) (field : String) (own : SettingsOf Held) :
    (part field (.settings own)).run.run session =
      ((lookup? field own.entries).elim (.error (.noSetting field)) .ok, session) := by
  simp only [part]
  cases lookup? field own.entries <;> rfl

/-- To look for a part changes nothing, and a part is held by the thing itself or by a cell. -/
theorem run_part (session : Session) (field : String) (thing : Thing) :
    ∃ outcome, (part field thing).run.run session = (outcome, session) ∧
      ∀ held, outcome = .ok held →
        held ∈ thing.roots ∨ ∃ shape ∈ session.cells, held ∈ shape.parts := by
  -- A thing is a set of settings, or a value that may be a record; only these have parts.
  cases thing with
  | settings own =>
    refine ⟨_, run_part_settings session field own, fun held same => .inl ?_⟩
    cases found : lookup? field own.entries with
    | none =>
      rw [found] at same
      cases same
    | some other =>
      rw [found] at same
      cases same
      exact List.mem_map_of_mem (mem_of_lookup? found)
  -- A value is one level deep, and its parts are held by the cell that it stands for.
  | value whole =>
    simp only [part]
    rw [run_bind_ok run_get]
    cases level : whole.shape session.cells with
    | leaf value => exact ⟨.error (.noParts value.kind), rfl, fun _ same => by cases same⟩
    | list items => exact ⟨.error (.noParts .list), rfl, fun _ same => by cases same⟩
    | record entries =>
      cases found : lookup? field entries with
      | none =>
        refine ⟨.error (.noKey field), ?_, fun _ same => by cases same⟩
        simp only [found]
        rfl
      | some held =>
        refine ⟨.ok held, ?_, fun _ same => .inr ?_⟩
        · simp only [found]
          rfl
        · cases same
          obtain ⟨address, -, held⟩ := Held.cell_of_node level (Shape.node_record entries)
          exact ⟨_, List.mem_of_getElem? held, List.mem_map_of_mem (mem_of_lookup? found)⟩

end

section

variable {session : Session} (good : Good session)
include good

/-- To put a value under a name leaves nothing else changed. -/
theorem moved_keep (name : String) (value : Value) :
    Moved session (session.after (.keep name value)) (some name) := by
  -- The value is put into new cells, and the name leads to these.
  obtain ⟨held, added, ran, reads⟩ := Held.run_ofValue value session.cells good.sound
  rw [after, behind, keep, run_bind_ok (run_onCells ran)]
  exact Moved.place good reads.island name (.value held)
    (List.forall_mem_singleton.mpr reads.placed)

/-- Settings that are made without a check are in new cells. -/
theorem moved_make (name : String) (fields : Context) :
    Moved session (session.after (.make name fields)) (some name) := by
  -- Without a check there is still a way to fail, for a field that is no setting.
  rw [after, behind, make]
  cases made : Settings.make fields with
  | error cause =>
    rw [run_bind_error (run_lifted (.error cause))]
    exact Moved.refl good _
  | ok plain =>
    obtain ⟨entries, added, ran, island, row, same⟩ :=
      Held.run_ofEntries plain.entries session.cells good.sound
    -- Every setting has an entry, so none is left as it was before it was put into a cell.
    have complete : ∀ name ∈ settingNames, (lookup? name entries).isSome := by
      intro name known
      have found := lookup?_map (Held.value (session.cells ++ added)) name entries
      rw [same] at found
      rw [← Option.isSome_map, ← found]
      revert known name
      simp [settingNames, SettingsOf.entries, lookup?]
    have placed : ∀ root ∈ (Thing.settings ((plain.map Held.leaf).updated entries)).roots,
        root.Placed session.cells.length added := by
      intro root member
      obtain ⟨entry, inside, rfl⟩ := List.mem_map.mp member
      exact row.placed _ (List.mem_map_of_mem (mem_of_mem_updated complete entry inside))
    rw [run_bind_ok (run_lifted (.ok plain)), run_bind_ok (run_onCells ran)]
    exact Moved.place good island name _ placed

/-- A value is put into a list or a record. -/
theorem grows_of_shape {target : Held} {old : Shape Held}
    (level : target.shape session.cells = old) (oldNode : old.Node) (value : Value)
    (grown : Held → Shape Held) (node : ∀ held, (grown held).Node)
    (parts : ∀ held, ∀ part ∈ (grown held).parts, part ∈ old.parts ∨ part = held) :
    Grows session (session.behind do
      let held ← onCells (Held.ofValue value)
      modify fun session =>
        { session with cells := target.overwrite session.cells (grown held) }) target := by
  -- The new part is put into cells of its own before the target takes it in.
  obtain ⟨address, rfl, found⟩ := Held.cell_of_node level oldNode
  obtain ⟨held, added, ran, reads⟩ := Held.run_ofValue value session.cells good.sound
  rw [behind, run_bind_ok (run_onCells ran)]
  refine ⟨address, old, grown held, added, rfl, found, node held, reads.island, ?_, rfl⟩
  -- A part was there before, or it is the new one.
  intro part member
  rcases parts held part member with known | rfl
  · exact .inl known
  · exact .inr reads.placed

/-- What a move that puts something into a setting can do: nothing, or to let what it names grow. -/
theorem grows_of_target {move : Move} {name field : String}
    (into : move.target = some (name, field)) :
    session.after move = session ∨ ∃ target, Grows session (session.after move) target ∧
      (∀ address, target = .cell address → ¬ session.Private address) ∧
      ∀ own, lookup? name session.things = some (.settings own) →
        lookup? field own.entries = some target := by
  -- An item goes into a list and an entry into a record; all else is refused and changes nothing.
  cases move with
  | append name field item =>
    cases into
    rw [after]
    cases there : lookup? name session.things with
    | none => exact .inl rfl
    | some thing =>
      obtain ⟨outcome, ran, reach⟩ := run_part session field thing
      cases outcome with
      -- Where no part is found, nothing is put anywhere.
      | error cause =>
        refine .inl ?_
        simp only [behind, append, run_bind_error ran]
      | ok target =>
        simp only [behind, append, run_bind_ok ran, run_bind_ok run_get]
        cases level : target.shape session.cells with
        | leaf value => exact .inl rfl
        | record entries => exact .inl rfl
        | list items =>
          refine .inr ⟨target, ?_, ?_, fun own same => ?_⟩
          · refine grows_of_shape good level (Shape.node_list items) item
              (fun held => .list (items ++ [held])) (fun held => Shape.node_list _) ?_
            intro held part member
            simpa [Shape.parts] using member
          · -- What a name leads to, directly or through a cell, is not private.
            rintro address rfl hidden
            rcases reach _ rfl with root | ⟨shape, member, held⟩
            · exact hidden.rootless name thing there root
            · exact hidden.unheld shape member held
          · -- Where the name stands for settings, the target is what their field holds.
            obtain rfl : thing = .settings own := Option.some.inj same
            rw [run_part_settings] at ran
            cases found : lookup? field own.entries with
            | none =>
              rw [found] at ran
              cases ran
            | some held =>
              rw [found] at ran
              cases ran
              rfl
  | put name key value =>
    cases into
    rw [after]
    split
    · rename_i own there
      simp only [behind, put, run_bind_ok run_get]
      cases level : own.custom.shape session.cells with
      | leaf value => exact .inl rfl
      | list items => exact .inl rfl
      | record entries =>
        -- An entry is put into the custom setting, to which the name leads.
        refine .inr ⟨own.custom, ?_, ?_, fun own' same => ?_⟩
        · refine grows_of_shape good level (Shape.node_record entries) value
            (fun held => .record (assign key held entries)) (fun held => Shape.node_record _) ?_
          intro held part member
          obtain ⟨entry, inside, rfl⟩ := List.mem_map.mp member
          rcases mem_of_mem_assign inside with rfl | old
          · exact .inr rfl
          · exact .inl (List.mem_map_of_mem old)
        · intro address same hidden
          refine hidden.rootless name _ there ?_
          simp [Thing.roots, SettingsOf.entries, same]
        · cases there.symm.trans same
          simp [SettingsOf.entries, lookup?]
    · exact .inl rfl
  | keep | load | make | write => cases into

/-- To put something into a setting gives no name to anything. -/
theorem moved_of_target {move : Move} {name field : String}
    (into : move.target = some (name, field)) : Moved session (session.after move) none := by
  -- The only cell that changes is one that a name leads to, so no private one does.
  rcases grows_of_target good into with same | ⟨target, grows, reached, -⟩
  · rw [same]
    exact Moved.refl good _
  · exact grows.moved good reached

/-- To write a file changes no cell. -/
theorem moved_write (path : Path) (entry : FileEntry) :
    Moved session (session.after (.write path entry)) none where
  -- A file is written beside the cells and the names, which all stay as they are.
  sound := good.sound
  grows := Nat.le_refl _
  unheld := fun _ _ => id
  kept := fun _ _ _ => rfl
  others := fun _ _ => rfl
  newly := fun _ _ => .inl
  managers := fun _ => .inl

end

end Tablewright.Session
