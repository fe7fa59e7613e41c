import Tablewright.Proofs.Value.Cells

/-! Plain values put into new cells: they are read back, and nothing old is held by them. -/

namespace Tablewright

/-- Behind no cells nothing is added. -/
theorem island_nil (count : Nat) : Island count [] :=
  ⟨⟨by simp, by simp, by simp⟩, by simp⟩

/-- Two rows of new cells, the second one behind the first, are a row of new cells. -/
theorem Island.append {count : Nat} {added more : Cells} (first : Island count added)
    (second : Island (count + added.length) more) : Island count (added ++ more) := by
  refine ⟨first.toBehind.append second.toBehind, List.forall_mem_append.mpr ⟨first.apart, ?_⟩⟩
  -- What the second cells hold is behind the first ones, and so behind all that was there.
  intro shape member part held
  exact Nat.le_of_add_right_le (second.apart shape member part held)

/-- A held value in new cells: a leaf, or a new cell that no new cell holds. -/
def Held.Placed (count : Nat) (added : Cells) : Held → Prop
  | .leaf value => value.shape = .leaf value
  | .cell address => count ≤ address ∧ address < count + added.length ∧ Unheld added address

/-- A value in new cells is there behind all old ones. -/
theorem Held.Placed.proper {cells added : Cells} {held : Held}
    (placed : held.Placed cells.length added) : held.Proper (cells ++ added) := by
  -- A new address is counted on from the old cells.
  cases held with
  | leaf value => exact placed
  | cell address =>
    obtain ⟨-, low, -⟩ := placed
    simpa [Held.Proper] using low

/-- Two held values that are not in one cell. -/
def Held.Apart (held other : Held) : Prop := ∀ address, held = .cell address → other ≠ .cell address

/-- Neither of two held values is in the cell of the other. -/
theorem Held.Apart.symm {held other : Held} (apart : held.Apart other) : other.Apart held :=
  fun address there here => apart address here there

/-- Held values in new cells, each in a cell of its own. -/
structure Row (count : Nat) (added : Cells) (row : List Held) : Prop where
  placed : ∀ held ∈ row, held.Placed count added
  apart : row.Pairwise Held.Apart

/-- A first held value with new cells of its own in front of others. -/
theorem Row.cons {count : Nat} {added more : Cells} {held : Held} {row : List Held}
    (island : Island count added) (placed : held.Placed count added)
    (following : Island (count + added.length) more) (rest : Row (count + added.length) more row) :
    Row count (added ++ more) (held :: row) := by
  -- Each value is in cells of its own, and what is shared is none of them.
  refine ⟨?_, ?_⟩
  · intro other member
    rcases List.mem_cons.mp member with rfl | later
    · cases other with
      | leaf value => exact placed
      | cell address =>
        obtain ⟨high, low, alone⟩ := placed
        refine ⟨high, by rw [List.length_append]; omega, fun shape inside held => ?_⟩
        -- The cells behind hold none of those in front of them.
        rcases List.mem_append.mp inside with own | behind
        · exact alone shape own held
        · have above := following.apart shape behind address held
          omega
    · -- The later values are in cells behind those of the first one.
      have placedLater := rest.placed other later
      cases other with
      | leaf value => exact placedLater
      | cell address =>
        obtain ⟨high, low, alone⟩ := placedLater
        refine ⟨by omega, by rw [List.length_append]; omega, fun shape inside held => ?_⟩
        -- The cells in front were there before the later ones.
        rcases List.mem_append.mp inside with front | own
        · have below := island.below shape front address held
          omega
        · exact alone shape own held
  · -- The first value is in front of where the others begin.
    refine List.pairwise_cons.mpr ⟨fun other later address here there => ?_, rest.apart⟩
    subst here there
    obtain ⟨-, low, -⟩ := placed
    obtain ⟨high, -, -⟩ := rest.placed _ later
    omega

/-- A list or a record over a row of held values in new cells goes into one more cell. -/
theorem Island.concat {count : Nat} {added : Cells} (island : Island count added)
    {shape : Shape Held} (node : shape.Node)
    (parts : ∀ part ∈ shape.parts, part.Placed count added) :
    Island count (added ++ [shape]) ∧
      Held.Placed count (added ++ [shape]) (.cell (count + added.length)) := by
  -- The parts are new cells in front of the one that is put behind them.
  have inside : ∀ part, .cell part ∈ shape.parts → count ≤ part ∧ part < count + added.length := by
    intro part held
    obtain ⟨high, low, -⟩ := parts _ held
    exact ⟨high, low⟩
  have last : Behind (count + added.length) [shape] :=
    behind_singleton node (fun _ held => parts _ held) fun part held => (inside part held).2
  have apart := List.forall_mem_append.mpr ⟨island.apart,
    List.forall_mem_singleton.mpr fun part held => (inside part held).1⟩
  refine ⟨⟨island.toBehind.append last, apart⟩, by omega, by simp, unheld_concat ?_ ?_⟩
  · -- The address is behind all that the cells in front of it hold, and behind its own parts.
    intro other member held
    have low := island.below other member _ held
    omega
  · intro held
    have low := (inside _ held).2
    omega

/-- What a step does to cells, and what it does next. -/
theorem run_bind_of_run {step : StateM σ α} {next : α → StateM σ β} {state state' : σ} {value : α}
    (ran : step.run state = (value, state')) :
    (step >>= next).run state = (next value).run state' := by
  rw [StateT.run_bind, ran]
  rfl

/-- A list or a record is put into a cell behind all others. -/
theorem Held.run_allocate {shape : Shape Held} (node : shape.Node) (cells : Cells) :
    (Held.allocate shape).run cells = (.cell cells.length, cells ++ [shape]) := by
  -- Only leaves are not put into cells.
  cases shape with
  | leaf value => exact absurd rfl (node value)
  | list items => rfl
  | record entries => rfl

/-- A held value in new cells that reads back as a plain value. -/
structure ReadsBack (cells added : Cells) (held : Held) (value : Value) : Prop where
  island : Island cells.length added
  placed : held.Placed cells.length added
  value_eq : held.value (cells ++ added) = value

/-- A list or a record over parts that read back reads back as such. -/
theorem ReadsBack.concat {cells added : Cells} (sound : Sound cells)
    (island : Island cells.length added) {shape : Shape Held} (node : shape.Node)
    (plain : Shape Value) (parts : ∀ part ∈ shape.parts, part.Placed cells.length added)
    (same : shape.map (Held.value (cells ++ added)) = plain) :
    ReadsBack cells (added ++ [shape]) (.cell (cells ++ added).length) plain.value := by
  -- The new cell is put behind the island of its parts, and is then read back.
  obtain ⟨grown, placed⟩ := island.concat node parts
  have before := sound.append island.toBehind
  have behind : Sound (cells ++ (added ++ [shape])) := sound.append grown.toBehind
  rw [← List.append_assoc] at behind
  refine ⟨grown, by rwa [List.length_append], ?_⟩
  rw [← List.append_assoc, ← same]
  exact before.value_last behind fun part member => (parts part member).proper

/-- A leaf reads back as it is, and needs no cell. -/
theorem ReadsBack.leaf (cells : Cells) {value : Value} (leaf : value.shape = .leaf value) :
    ReadsBack cells [] (.leaf value) value :=
  ⟨island_nil _, leaf, rfl⟩

section

variable {cells added more : Cells} (island : Island cells.length added)
  (following : Island (cells ++ added).length more)
include island following

/-- Two rows of new cells are one row of new cells. -/
theorem island_append : Island cells.length (added ++ more) :=
  island.append (List.length_append ▸ following)

/-- A held value reads the same once further cells are put behind its own. -/
theorem value_of_placed (sound : Sound cells) {held : Held}
    (placed : held.Placed cells.length added) :
    held.value (cells ++ (added ++ more)) = held.value (cells ++ added) := by
  -- What is put behind changes no value that is there.
  have before := sound.append island.toBehind
  have behind := before.append following.toBehind
  rw [← List.append_assoc]
  exact Held.value_append before behind placed.proper

end

mutual

/-- A plain value is kept in new cells and reads back from there. -/
theorem Held.run_ofValue (value : Value) (cells : Cells) (sound : Sound cells) :
    ∃ held added, (Held.ofValue value).run cells = (held, cells ++ added) ∧
      ReadsBack cells added held value := by
  -- Lists and records are put into a cell behind those of what they hold; all else is a leaf.
  cases value with
  | list items =>
    obtain ⟨row, added, ran, island, placed, same⟩ := Held.run_ofValues items cells sound
    have node := Shape.node_list row
    refine ⟨_, added ++ [.list row], ?_, ReadsBack.concat sound island node (.list items)
      placed.placed (congrArg Shape.list same)⟩
    rw [Held.ofValue, run_bind_of_run ran, Held.run_allocate node, List.append_assoc]
  | record entries =>
    obtain ⟨row, added, ran, island, placed, same⟩ := Held.run_ofEntries entries cells sound
    have node := Shape.node_record row
    refine ⟨_, added ++ [.record row], ?_, ReadsBack.concat sound island node (.record entries)
      placed.placed (congrArg Shape.record same)⟩
    rw [Held.ofValue, run_bind_of_run ran, Held.run_allocate node, List.append_assoc]
  | null | bool | int | float | text | column | helper | loop | missing =>
    exact ⟨_, [], by rw [List.append_nil]; rfl, ReadsBack.leaf cells rfl⟩

/-- Plain values in a row are kept in new cells, each in one of its own. -/
theorem Held.run_ofValues (values : List Value) (cells : Cells) (sound : Sound cells) :
    ∃ row added, (Held.ofValues values).run cells = (row, cells ++ added) ∧
      Island cells.length added ∧ Row cells.length added row ∧
      row.map (Held.value (cells ++ added)) = values := by
  -- The cells of the first value come in front of those of the others.
  cases values with
  | nil => exact ⟨[], [], by rw [List.append_nil]; rfl, island_nil _, ⟨by simp, .nil⟩, rfl⟩
  | cons value rest =>
    obtain ⟨held, added, ran, reads⟩ := Held.run_ofValue value cells sound
    have before := sound.append reads.island.toBehind
    obtain ⟨row, more, ranRest, following, placed, same⟩ := Held.run_ofValues rest _ before
    refine ⟨held :: row, added ++ more, ?_, island_append reads.island following,
      Row.cons reads.island reads.placed (List.length_append ▸ following)
        (List.length_append ▸ placed), ?_⟩
    · rw [Held.ofValues, run_bind_of_run ran, run_bind_of_run ranRest, ← List.append_assoc]
      rfl
    · -- The first value reads back as before, since the cells behind it hold nothing of it.
      rw [List.map_cons, value_of_placed reads.island following sound reads.placed, reads.value_eq,
        ← List.append_assoc, same]

/-- Plain values under their keys are kept in new cells, each in one of its own. -/
theorem Held.run_ofEntries (values : List (String × Value)) (cells : Cells) (sound : Sound cells) :
    ∃ entries added, (Held.ofEntries values).run cells = (entries, cells ++ added) ∧
      Island cells.length added ∧ Row cells.length added (entries.map (·.2)) ∧
      entries.map (Prod.map id (Held.value (cells ++ added))) = values := by
  -- As for values in a row, with the keys left as they are.
  cases values with
  | nil => exact ⟨[], [], by rw [List.append_nil]; rfl, island_nil _, ⟨by simp, .nil⟩, rfl⟩
  | cons entry rest =>
    obtain ⟨key, value⟩ := entry
    obtain ⟨held, added, ran, reads⟩ := Held.run_ofValue value cells sound
    have before := sound.append reads.island.toBehind
    obtain ⟨entries, more, ranRest, following, placed, same⟩ := Held.run_ofEntries rest _ before
    refine ⟨(key, held) :: entries, added ++ more, ?_, island_append reads.island following,
      Row.cons reads.island reads.placed (List.length_append ▸ following)
        (List.length_append ▸ placed), ?_⟩
    · rw [Held.ofEntries, run_bind_of_run ran, run_bind_of_run ranRest, ← List.append_assoc]
      rfl
    · rw [List.map_cons, Prod.map, id, value_of_placed reads.island following sound reads.placed,
        reads.value_eq, ← List.append_assoc, same]

end

end Tablewright
