import Tablewright.Proofs.Value.Placing
import Tablewright.Settings.Session

/-! What is done in a session, move by move: the defaults of managers stay out of reach. -/

namespace Tablewright

/-- What a thing holds itself. -/
def Thing.roots : Thing → List Held
  | .value held => [held]
  | .settings own => own.entries.map (·.2)

namespace Session

/-- Where what is set on the spot is taken from. -/
inductive Source where
  /-- A new value. -/
  | given (value : Value)
  /-- The value that goes by a name. -/
  | thing (name : String)
  /-- A part of what goes by a name. -/
  | part (name field : String)

/-- What is done in a session to what goes by names in it. -/
inductive Move where
  | keep (name : String) (value : Value)
  | load (name : String) (manager : Manager) (source : Source) (file : Value)
  | make (name : String) (fields : Context)
  | append (name field : String) (item : Value)
  | put (name key : String) (value : Value)
  | write (path : Path) (entry : FileEntry)

/-- What is set on the spot, if there is anything by the name. -/
def overrides? (session : Session) : Source → Option Overrides
  | .given value => some (.given value)
  | .thing name =>
    match lookup? name session.things with
    | some (.value held) => some (.held held)
    | _ => none
  | .part name field => do
    let thing ← lookup? name session.things
    let held ← ((part field thing).run.run session).1.toOption
    return .held held

/-- The session behind a step, whether the step fails or not. -/
def behind (session : Session) (step : Step α) : Session := (step.run.run session).2

/-- The session behind a move; a move of what is not there is none. -/
def after (session : Session) : Move → Session
  | .keep name value => session.behind (keep name value)
  | .load name manager source file =>
    match session.overrides? source with
    | some overrides => session.behind (load name manager overrides file)
    | none => session
  | .make name fields => session.behind (make name fields)
  | .append name field item =>
    match lookup? name session.things with
    | some thing => session.behind (append field item thing)
    | none => session
  | .put name key value =>
    match lookup? name session.things with
    | some (.settings settings) => session.behind (put key value settings)
    | _ => session
  | .write path entry => session.behind (write path entry)

/-- The session behind moves one after another. -/
def run (session : Session) (moves : List Move) : Session := moves.foldl after session

/-- The name that a move gives to something new. -/
def Move.binds : Move → Option String
  | .keep name _ | .load name _ _ _ | .make name _ => some name
  | .append .. | .put .. | .write .. => none

/-- What a move puts something into: a setting, or an entry, of what goes by a name. -/
def Move.target : Move → Option (String × String)
  | .append name field _ => some (name, field)
  | .put name _ _ => some (name, "custom")
  | .keep .. | .load .. | .make .. | .write .. => none

/-- A cell that nothing leads to: no cell holds it, and no thing does. -/
structure Private (session : Session) (address : Nat) : Prop where
  unheld : Unheld session.cells address
  rootless : ∀ name thing, lookup? name session.things = some thing →
    .cell address ∉ thing.roots

/-- A cell that no cell holds, and of all things only one setting of what goes by a name. -/
structure Alone (session : Session) (name : String) (own : SettingsOf Held) (field : String)
    (address : Nat) : Prop where
  unheld : Unheld session.cells address
  others : ∀ other thing, other ≠ name → lookup? other session.things = some thing →
    .cell address ∉ thing.roots
  fields : ∀ entry ∈ own.entries, entry.1 ≠ field → entry.2 ≠ .cell address

/-- Settings that go by a name and share the list or record of a setting with nothing. -/
structure Owned (session : Session) (name : String) (own : SettingsOf Held) (field : String) :
    Prop where
  there : lookup? name session.things = some (.settings own)
  alone : ∀ address, lookup? field own.entries = some (.cell address) →
    session.Alone name own field address

/-- The defaults of a manager, with its two lists in cells. -/
def defaultsAt (targets imports : Nat) : List (String × Held) :=
  [("package_name", .leaf (.text "models")), ("targets", .cell targets), ("imports", .cell imports),
    ("gofmt_command", .leaf (.text "gofmt"))]

/-- The default targets one level deep. -/
def targetsShape : Shape Held := .list (defaultTargets.map fun target => .leaf (.text target))

/-- Entries that are the defaults, with both lists as ever and out of reach. -/
structure Pristine (session : Session) (entries : List (String × Held)) (targets imports : Nat) :
    Prop where
  entries_eq : entries = defaultsAt targets imports
  targets_eq : session.cells[targets]? = some targetsShape
  imports_eq : session.cells[imports]? = some (.list [])
  targets_private : session.Private targets
  imports_private : session.Private imports

/-- A session where cells do not go round, things are there, and defaults are out of reach. -/
structure Good (session : Session) : Prop where
  sound : Sound session.cells
  proper : ∀ name thing, lookup? name session.things = some thing →
    ∀ root ∈ thing.roots, root.Proper session.cells
  defaults : ∀ entry ∈ session.managers, ∃ targets imports,
    session.Pristine entry.2 targets imports

/-- A session where nothing has been done. -/
theorem good_empty : Good {} :=
  ⟨sound_nil, by simp [lookup?], by simp⟩

/-- A thing in a session behind a move holds new cells, or cells that were held before. -/
def Newly (session session' : Session) (thing : Thing) : Prop :=
  ∀ root ∈ thing.roots, root.Proper session'.cells ∧
    ∀ address, root = .cell address → address < session.cells.length →
      ¬ Unheld session.cells address

/-- All that a move can do: no cell that was unheld becomes held, private cells stay as they are,
and one name at most is given to something new. -/
structure Moved (session session' : Session) (bound : Option String) : Prop where
  sound : Sound session'.cells
  grows : session.cells.length ≤ session'.cells.length
  unheld : ∀ address, address < session.cells.length → Unheld session.cells address →
    Unheld session'.cells address
  kept : ∀ address, address < session.cells.length → session.Private address →
    session'.cells[address]? = session.cells[address]?
  others : ∀ name, bound ≠ some name →
    lookup? name session'.things = lookup? name session.things
  newly : ∀ name thing, lookup? name session'.things = some thing →
    lookup? name session.things = some thing ∨ Newly session session' thing
  managers : ∀ entry ∈ session'.managers, entry ∈ session.managers ∨
    ∃ targets imports, session'.Pristine entry.2 targets imports

section

variable {session session' : Session} {bound : Option String}

/-- What is private stays private. -/
theorem Moved.private (moved : Moved session session' bound) {address : Nat}
    (there : address < session.cells.length) (hidden : session.Private address) :
    session'.Private address := by
  -- What is entered holds new cells and held ones, and a private cell is neither.
  refine ⟨moved.unheld address there hidden.unheld, fun name thing found root => ?_⟩
  rcases moved.newly name thing found with old | new
  · exact hidden.rootless name thing old root
  · exact (new _ root).2 address rfl there hidden.unheld

/-- Entries that are defaults out of reach are so behind a move. -/
theorem Moved.pristine (moved : Moved session session' bound) {entries : List (String × Held)}
    {targets imports : Nat} (pristine : session.Pristine entries targets imports) :
    session'.Pristine entries targets imports := by
  -- Nothing led to the lists, so they were not changed.
  obtain ⟨same, targetsAt, importsAt, targetsHidden, importsHidden⟩ := pristine
  have targetsThere := (List.getElem?_eq_some_iff.mp targetsAt).1
  have importsThere := (List.getElem?_eq_some_iff.mp importsAt).1
  exact ⟨same, (moved.kept _ targetsThere targetsHidden).trans targetsAt,
    (moved.kept _ importsThere importsHidden).trans importsAt,
    moved.private targetsThere targetsHidden, moved.private importsThere importsHidden⟩

/-- A move leads from a good session to a good one. -/
theorem Moved.good (moved : Moved session session' bound) (good : Good session) :
    Good session' := by
  -- A thing that a name leads to was there before the move, or is new and sound itself.
  refine ⟨moved.sound, fun name thing found root member => ?_, fun entry member => ?_⟩
  · rcases moved.newly name thing found with old | new
    · have there := good.proper name thing old root member
      exact there.grow moved.grows
    · exact (new root member).1
  · -- The defaults of a manager stay out of reach, or are new and out of reach.
    rcases moved.managers entry member with old | new
    · obtain ⟨targets, imports, pristine⟩ := good.defaults entry old
      exact ⟨targets, imports, moved.pristine pristine⟩
    · exact new

/-- Nothing is done. -/
theorem Moved.refl (good : Good session) (bound : Option String) : Moved session session bound :=
  ⟨good.sound, Nat.le_refl _, fun _ _ => id, fun _ _ _ => rfl, fun _ _ => rfl, fun _ _ => .inl,
    fun _ => .inl⟩

/-- What two moves one after another can do, one move can. -/
theorem Moved.trans {session'' : Session} (moved : Moved session session' bound)
    (next : Moved session' session'' bound) : Moved session session'' bound where
  -- Field by field; what the first move made new is old to the second one.
  sound := next.sound
  grows := Nat.le_trans moved.grows next.grows
  unheld := fun address there alone =>
    next.unheld address (Nat.lt_of_lt_of_le there moved.grows) (moved.unheld address there alone)
  kept := fun address there hidden =>
    (next.kept address (Nat.lt_of_lt_of_le there moved.grows) (moved.private there hidden)).trans
      (moved.kept address there hidden)
  others := fun name apart => (next.others name apart).trans (moved.others name apart)
  newly := by
    intro name thing found
    rcases next.newly name thing found with old | new
    · refine (moved.newly name thing old).imp_right fun new root member => ?_
      obtain ⟨proper, held⟩ := new root member
      exact ⟨proper.grow next.grows, held⟩
    · refine .inr fun root member => ?_
      obtain ⟨proper, held⟩ := new root member
      refine ⟨proper, fun address same there alone => ?_⟩
      exact held address same (Nat.lt_of_lt_of_le there moved.grows)
        (moved.unheld address there alone)
  managers := by
    intro entry member
    rcases next.managers entry member with old | new
    · refine (moved.managers entry old).imp_right fun ⟨targets, imports, pristine⟩ => ?_
      exact ⟨targets, imports, next.pristine pristine⟩
    · exact .inr new

/-- A move that gives no name to anything is one that may give one. -/
theorem Moved.mono (moved : Moved session session' none) (bound : Option String) :
    Moved session session' bound :=
  { moved with others := fun name _ => moved.others name (by simp) }

/-- Cells are put behind the others. -/
theorem Moved.grow {cells : Cells} (grown : Grown session.cells cells) (bound : Option String) :
    Moved session { session with cells := cells } bound where
  -- No cell that was there changes, and no name and no manager is touched.
  sound := grown.sound
  grows := grown.length_le
  unheld := grown.unheld
  kept := fun address there _ => grown.same address there
  others := fun _ _ => rfl
  newly := fun _ _ => .inl
  managers := fun _ => .inl

/-- Cells are put behind the others, and something that is in these or was held is given a name. -/
theorem Moved.enter {cells : Cells} (grown : Grown session.cells cells) (name : String)
    {thing : Thing} (new : Newly session { session with cells := cells } thing) :
    Moved session { session with
      cells := cells, things := assign name thing session.things } (some name) where
  sound := grown.sound
  grows := grown.length_le
  unheld := grown.unheld
  kept := fun address there _ => grown.same address there
  others := fun other apart => lookup?_assign_of_ne (fun same => apart (by rw [same])) _ _
  newly := by
    intro other entered found
    -- The name leads to the new thing, and every other one to where it led before.
    by_cases hit : other = name
    · subst hit
      obtain rfl : thing = entered := Option.some.inj ((lookup?_assign_self ..).symm.trans found)
      exact .inr new
    · exact .inl ((lookup?_assign_of_ne hit ..).symm.trans found)
  managers := fun _ => .inl

/-- Something in cells that hold none of the old ones is given a name. -/
theorem Moved.place (good : Good session) {added : Cells}
    (island : Island session.cells.length added) (name : String) (thing : Thing)
    (placed : ∀ root ∈ thing.roots, root.Placed session.cells.length added) :
    Moved session { session with
      cells := session.cells ++ added, things := assign name thing session.things }
      (some name) := by
  -- All cells of the thing are new, so none of them was private before.
  refine Moved.enter (island.grown good.sound) name fun root member => ?_
  refine ⟨(placed root member).proper, ?_⟩
  rintro address rfl there
  obtain ⟨high, -, -⟩ := placed _ member
  omega

/-- A list or a record is overwritten by one with old parts and parts in new cells. -/
def Grows (session session' : Session) (target : Held) : Prop :=
  ∃ address old shape added, target = .cell address ∧ session.cells[address]? = some old ∧
    shape.Node ∧ Island session.cells.length added ∧
    (∀ part ∈ shape.parts, part ∈ old.parts ∨ part.Placed session.cells.length added) ∧
    session' = { session with cells := (session.cells ++ added).set address shape }

/-- A list or a record that grows is overwritten without any cell going round. -/
theorem sound_of_grows (good : Good session) {address : Nat} {old shape : Shape Held}
    {added : Cells} (found : session.cells[address]? = some old) (node : shape.Node)
    (island : Island session.cells.length added)
    (parts : ∀ part ∈ shape.parts, part ∈ old.parts ∨ part.Placed session.cells.length added) :
    Sound ((session.cells ++ added).set address shape) := by
  -- A part was held before the cell grew, or it is one of the new cells.
  refine good.sound.set island found node fun part member => ?_
  rcases parts part member with known | placed
  · have there := good.sound.proper old (List.mem_of_getElem? found) part known
    exact ⟨there.append added, .inl known⟩
  · refine ⟨placed.proper, .inr ?_⟩
    rintro lower rfl
    exact placed.1

/-- A list or a record that is led to may grow. -/
theorem Grows.moved (good : Good session) {target : Held} (grows : Grows session session' target)
    (reached : ∀ address, target = .cell address → ¬ session.Private address) :
    Moved session session' none := by
  obtain ⟨address, old, shape, added, same, found, node, island, parts, rfl⟩ := grows
  exact {
    sound := sound_of_grows good found node island parts
    grows := by simp
    -- What the cell holds now it held before, or it is new.
    unheld := by
      intro other there alone holder member held
      rcases List.mem_or_eq_of_mem_set member with kept | rfl
      · exact island.unheld_append there alone holder kept held
      · rcases parts _ held with known | ⟨high, -, -⟩
        · exact alone old (List.mem_of_getElem? found) known
        · omega
    -- A private cell is not the one that grows.
    kept := by
      intro other there hidden
      have apart : address ≠ other := fun hit => reached address same (hit ▸ hidden)
      rw [List.getElem?_set_ne apart, List.getElem?_append_left there]
    others := fun _ _ => rfl
    newly := fun _ _ => .inl
    managers := fun _ => .inl }

/-- A list or a record that no cell holds grows without any other value being changed. -/
theorem Grows.plain_eq (good : Good session) {target : Held} (grows : Grows session session' target)
    (alone : ∀ address, target = .cell address → Unheld session.cells address) {held : Held}
    (proper : held.Proper session.cells) (other : held ≠ target) :
    session'.plain held = session.plain held := by
  -- Only one cell is overwritten, and a value that does not lead to it keeps its plain value.
  obtain ⟨address, old, shape, added, rfl, found, node, island, parts, rfl⟩ := grows
  have grown := island.grown good.sound
  have there : address < session.cells.length := (List.getElem?_eq_some_iff.mp found).1
  have unheld := island.unheld_append there (alone address rfl)
  exact (Held.value_set grown.sound (sound_of_grows good found node island parts) unheld
    (proper.append added) other).trans (grown.value_eq good.sound proper)

end

end Session

end Tablewright
