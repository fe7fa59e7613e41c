import Tablewright.Proofs.Settings.History

/-! Settings whose lists are their own: what is put into these shows nowhere else. -/

namespace Tablewright.Session

variable {session session' session'' : Session} {name field : String} {own : SettingsOf Held}

/-- What is owned stays so as long as the name is given to nothing else. -/
theorem Owned.moved (good : Good session) (owned : Owned session name own field)
    {bound : Option String} (moved : Moved session session' bound) (apart : bound ≠ some name) :
    Owned session' name own field := by
  -- A cell that no cell holds stays unheld, and nothing that is entered can come to hold it.
  refine ⟨(moved.others name apart).trans owned.there, fun address held => ?_⟩
  obtain ⟨unheld, others, fields⟩ := owned.alone address held
  have there : address < session.cells.length :=
    good.proper name _ owned.there (.cell address) (List.mem_map_of_mem (mem_of_lookup? held))
  refine ⟨moved.unheld address there unheld, fun other thing different found root => ?_, fields⟩
  -- A thing that was entered leads to nothing that was there and unheld.
  rcases moved.newly other thing found with old | new
  · exact others other thing different old root
  · exact (new _ root).2 address rfl there unheld

/-- Sessions with the same things and files where all shows the same values but some settings of
what goes by one name. -/
structure SameBut (session session' : Session) (name : String) (touched : String → Prop) :
    Prop where
  things : session'.things = session.things
  files : session'.files = session.files
  shown : ∀ other thing, other ≠ name → lookup? other session.things = some thing →
    session'.shown thing = session.shown thing
  settings : ∀ own, lookup? name session.things = some (.settings own) →
    ∀ entry ∈ own.entries, ¬ touched entry.1 → session'.plain entry.2 = session.plain entry.2

/-- Nothing is changed. -/
theorem SameBut.refl (session : Session) (name : String) (touched : String → Prop) :
    SameBut session session name touched :=
  ⟨rfl, rfl, fun _ _ _ _ => rfl, fun _ _ _ _ _ => rfl⟩

/-- Changes of some settings and then of others are changes of them all. -/
theorem SameBut.trans {first second touched : String → Prop}
    (same : SameBut session session' name first) (next : SameBut session' session'' name second)
    (covers : ∀ field, first field ∨ second field → touched field) :
    SameBut session session'' name touched := by
  -- What the second change leaves alone is compared through the session in between.
  refine ⟨next.things.trans same.things, next.files.trans same.files, ?_, ?_⟩
  · intro other thing apart found
    exact (next.shown other thing apart (same.things ▸ found)).trans
      (same.shown other thing apart found)
  · -- A field that neither change touches shows the same after each.
    intro own found entry member untouched
    have late := next.settings own (same.things ▸ found) entry member fun hit =>
      untouched (covers _ (.inr hit))
    exact late.trans (same.settings own found entry member fun hit =>
      untouched (covers _ (.inl hit)))

/-- Settings are told by what their settings hold. -/
theorem map_congr_entries {f g : α → β} {own : SettingsOf α}
    (same : ∀ entry ∈ own.entries, f entry.2 = g entry.2) : own.map f = own.map g := by
  -- The five settings are the five entries.
  simp only [SettingsOf.entries, List.forall_mem_cons] at same
  obtain ⟨package, targets, imports, format, custom, -⟩ := same
  simp only [SettingsOf.map, package, targets, imports, format, custom]

/-- A thing shows the same values when all that it holds itself has the same. -/
theorem shown_congr {thing : Thing}
    (same : ∀ root ∈ thing.roots, session'.plain root = session.plain root) :
    session'.shown thing = session.shown thing := by
  -- A value is shown by its plain value, and settings by the plain values of their entries.
  cases thing with
  | value held => exact same held (List.mem_singleton_self held)
  | settings own =>
    have entries : own.map session'.plain = own.map session.plain :=
      map_congr_entries fun entry member => same entry.2 (List.mem_map_of_mem member)
    rw [shown, shown, entries]

/-- What is put into a list or record that settings own shows in that setting alone. -/
theorem Owned.sameBut (good : Good session) (owned : Owned session name own field) {move : Move}
    (into : move.target = some (name, field)) :
    SameBut session (session.after move) name (· = field) := by
  -- A change that does nothing shows nowhere.
  rcases grows_of_target good into with same | ⟨target, grows, -, found⟩
  · rw [same]
    exact SameBut.refl session name _
  · -- The cell that grows is the one of the field, and the settings alone hold it.
    have held := found own owned.there
    have alone : ∀ address, target = .cell address → Unheld session.cells address := by
      rintro address rfl
      exact (owned.alone address held).unheld
    refine ⟨?_, ?_, fun other thing apart there => shown_congr fun root member => ?_,
      fun own' there entry member untouched => ?_⟩
    · obtain ⟨_, _, _, _, _, _, _, _, _, same⟩ := grows
      rw [same]
    · obtain ⟨_, _, _, _, _, _, _, _, _, same⟩ := grows
      rw [same]
    · refine grows.plain_eq good alone (good.proper other thing there root member) ?_
      rintro rfl
      -- Only lists and records grow, and no other thing holds the one that does.
      obtain ⟨address, _, _, _, rfl, -⟩ := grows
      exact (owned.alone address held).others other thing apart there member
    · obtain rfl : own = own' := by
        cases owned.there.symm.trans there
        rfl
      refine grows.plain_eq good alone
        (good.proper name _ there entry.2 (List.mem_map_of_mem member)) fun same => ?_
      obtain ⟨address, _, _, _, rfl, -⟩ := grows
      exact (owned.alone address held).fields entry member untouched same

/-- Whatever is put into lists and records that settings own shows in these settings alone. -/
theorem sameBut_run {among : String → Prop} (good : Good session)
    (owned : ∀ field, among field → Owned session name own field) {changes : List Move}
    (each : ∀ move ∈ changes, ∃ field, move.target = some (name, field) ∧ among field) :
    SameBut session (session.run changes) name
      fun field => ∃ move ∈ changes, move.target = some (name, field) := by
  -- Each change leaves the session good, and the lists and records with their owner.
  induction changes generalizing session with
  | nil => exact SameBut.refl session name _
  | cons move rest ih =>
    obtain ⟨⟨field, into, member⟩, others⟩ := List.forall_mem_cons.mp each
    have moved := moved_of_target good into
    have owned' : ∀ field, among field → Owned (session.after move) name own field :=
      fun field member => (owned field member).moved good moved (by simp)
    refine ((owned field member).sameBut good into).trans (ih (moved.good good) owned' others) ?_
    -- Every field that is touched is touched by one of the changes.
    rintro other (rfl | ⟨later, inside, into'⟩)
    · exact ⟨move, List.mem_cons_self .., into⟩
    · exact ⟨later, List.mem_cons_of_mem _ inside, into'⟩

/-- What settings own they own behind moves that give their name to nothing else. -/
theorem Owned.run (good : Good session) (owned : Owned session name own field) {moves : List Move}
    (kept : ∀ move ∈ moves, move.binds ≠ some name) : Owned (session.run moves) name own field := by
  -- The induction is on the moves: each leaves the ownership as it is.
  induction moves generalizing session with
  | nil => exact owned
  | cons move rest ih =>
    obtain ⟨first, others⟩ := List.forall_mem_cons.mp kept
    have moved := moved_after good move
    exact ih (moved.good good) (owned.moved good moved first) others

/-- A load that succeeds leaves settings that own their lists, and a custom setting of their own
when one is put together. -/
theorem owned_of_loaded? (good : Good session) {manager : Manager} {source : Source}
    {file value : Value} {plain : Settings} {written set : Context}
    (taken : session.given? source = some value)
    (loaded : session.loaded? name manager source file = some (.ok plain))
    (fromFile : entriesOfFile session.files file = .ok written)
    (onSpot : overridesOf value = .ok set) :
    ∃ own, ∀ field, (field ∈ ["targets", "imports"] ∨
        field = "custom" ∧ CopiesCustom written set) →
      Owned (session.after (.load name manager source file)) name own field := by
  -- The run is taken apart once, and what a load guarantees of its result is read off.
  obtain ⟨overrides, there, given⟩ := Option.map_eq_some_iff.mp taken
  obtain ⟨ended, session', ran, result⟩ :=
    run_load good (proper_of_overrides? good there) name manager file
  simp only [loaded?, there, Option.map_some, outcome, ran, Option.some.injEq] at loaded
  have behind' : session.after (.load name manager source file) = session' := by
    simp only [after, there, behind, ran]
  cases ended with
  -- A load that fails leaves no settings to own anything.
  | error cause => cases loaded
  | ok own =>
    rw [behind']
    refine ⟨own, fun field case => ?_⟩
    rcases case with list | ⟨rfl, copies⟩
    · exact result.lists own rfl field list
    · exact result.custom own written set rfl fromFile (given ▸ onSpot) copies

/-- Whatever is put into the lists of settings once they are loaded, and into a custom setting that
was put together for them, shows in these settings alone, and no load gives anything else for it. -/
theorem load_shares_nothing {start : Session} {before later changes : List Move} {name : String}
    {manager : Manager} {source : Source} {file value : Value} {plain : Settings}
    {written set : Context} (begun : start = run {} before)
    (taken : start.given? source = some value)
    (loaded : start.loaded? name manager source file = some (.ok plain))
    (fromFile : entriesOfFile start.files file = .ok written)
    (onSpot : overridesOf value = .ok set)
    (kept : ∀ move ∈ later, move.binds ≠ some name)
    (each : ∀ move ∈ changes, ∃ field, move.target = some (name, field) ∧
      (field ∈ ["targets", "imports"] ∨ field = "custom" ∧ CopiesCustom written set)) :
    let session := (start.after (.load name manager source file)).run later
    let changed := session.run changes
    (∀ other, other ≠ name → (lookup? other changed.things).map changed.shown =
      (lookup? other session.things).map session.shown) ∧
    (∀ own, lookup? name session.things = some (.settings own) → ∀ entry ∈ own.entries,
      (∀ move ∈ changes, move.target ≠ some (name, entry.1)) →
        changed.plain entry.2 = session.plain entry.2) ∧
    ∀ other manager' source' file', source'.name? ≠ some name →
      changed.loaded? other manager' source' file' =
        session.loaded? other manager' source' file' := by
  intro session changed
  subst begun
  -- What is owned behind the load is still owned where the changes begin.
  have started : Good (run {} before) := good_run good_empty before
  have behind' := (moved_load started name manager source file).good started
  have good : Good session := good_run behind' later
  obtain ⟨own, owned⟩ := owned_of_loaded? started taken loaded fromFile onSpot
  have same := sameBut_run good (fun field case => (owned field case).run behind' kept) each
  refine ⟨fun other apart => ?_, fun own there entry member untouched => ?_,
    fun other manager' source' file' apart => ?_⟩
  · -- Other things show what they showed.
    change (lookup? other (session.run changes).things).map _ = _
    rw [same.things]
    exact Option.map_congr fun thing there => same.shown other thing apart there
  · -- Of the settings themselves only the fields that are named change.
    exact same.settings own there entry member fun ⟨move, inside, into⟩ =>
      untouched move inside into
  · -- A later load depends on nothing but plain values of other things, and these are the same.
    have given : changed.given? source' = session.given? source' := by
      refine given?_congr good (good_run good changes) source' fun name' from' => ?_
      rw [same.things]
      refine ⟨rfl, fun thing there => same.shown name' thing ?_ there⟩
      rintro rfl
      exact apart from'
    rw [loaded?_eq_map good, loaded?_eq_map (good_run good changes), given, same.files]

/-- Entries to be set on the spot, one of them under a name of its own beside a custom setting. -/
def mixedEntries : Context :=
  [("targets", .list [.text "struct"]), ("custom", .record [("a", .int 1)]), ("b", .int 2)]

/-- A session where these entries go by a name. -/
def mixedSession : Session := run {} [.keep "o" (.record mixedEntries)]

/-- Settings are changed that were loaded over such entries, and these stay as they are. -/
theorem load_shares_nothing_mixed :
    let session := mixedSession.after (.load "c" none (.thing "o") .null)
    let changed := session.run [.append "c" "targets" (.text "insert"), .put "c" "k" (.int 3)]
    (lookup? "c" changed.things).map changed.shown =
        some (.record [("package_name", .text "models"),
          ("targets", .list [.text "struct", .text "insert"]), ("imports", .list []),
          ("gofmt_command", .text "gofmt"),
          ("custom", .record [("a", .int 1), ("b", .int 2), ("k", .int 3)])]) ∧
      (lookup? "o" changed.things).map changed.shown = some (.record mixedEntries) := by
  -- The session, the load and both changes are computed; the rest is the general statement.
  have taken : mixedSession.given? (.thing "o") = some (.record mixedEntries) := rfl
  have loaded : mixedSession.loaded? "c" none (.thing "o") .null =
      some (.ok ⟨.text "models", .list [.text "struct"], .list [], .text "gofmt",
        .record [("a", .int 1), ("b", .int 2)]⟩) := rfl
  -- One of the entries goes by a name of its own, so the custom setting is put together.
  have copies : CopiesCustom [] mixedEntries := .inr (List.cons_ne_nil _ _)
  have each : ∀ move ∈ [Move.append "c" "targets" (.text "insert"), .put "c" "k" (.int 3)],
      ∃ field, move.target = some ("c", field) ∧
        (field ∈ ["targets", "imports"] ∨ field = "custom" ∧ CopiesCustom [] mixedEntries) := by
    simp only [List.forall_mem_cons]
    exact ⟨⟨"targets", rfl, .inl (by simp)⟩, ⟨"custom", rfl, .inr ⟨rfl, copies⟩⟩, by simp⟩
  have kept : ∀ move ∈ ([] : List Move), move.binds ≠ some "c" := by simp
  have apart := load_shares_nothing rfl taken loaded rfl (overridesOf_record mixedEntries) kept each
  exact ⟨rfl, (apart.1 "o" (by decide)).trans rfl⟩

/-- Without an entry under a name of its own, a custom setting that was set on the spot is shared:
what is put into it shows there, too. -/
theorem load_shares_custom :
    let session := run {} [.keep "o" (.record [("custom", .record [("a", .int 1)])]),
      .load "c" none (.thing "o") .null]
    let changed := session.run [.put "c" "b" (.int 2)]
    (lookup? "o" changed.things).map changed.shown =
        some (.record [("custom", .record [("a", .int 1), ("b", .int 2)])]) ∧
      (lookup? "o" changed.things).map changed.shown ≠
        (lookup? "o" session.things).map session.shown := by
  -- The same record is shown through both names, before and after the change.
  refine ⟨rfl, fun same => ?_⟩
  have entries : some (Value.record [("custom", .record [("a", .int 1), ("b", .int 2)])]) =
      some (.record [("custom", .record [("a", .int 1)])]) := same
  simp at entries

end Tablewright.Session
