import Tablewright.Proofs.Value.Entries
import Tablewright.Value.Cells

/-! Cells that hold each other without going round, and what leaves their values as they are. -/

namespace Tablewright

/-- What a level of a value holds. -/
def Shape.parts : Shape α → List α
  | .leaf _ => []
  | .list items => items
  | .record entries => entries.map (·.2)

/-- The same level over other parts. -/
def Shape.map (f : α → β) : Shape α → Shape β
  | .leaf value => .leaf value
  | .list items => .list (items.map f)
  | .record entries => .record (entries.map (Prod.map id f))

/-- A level is told by its parts. -/
theorem Shape.map_congr {f g : α → β} {shape : Shape α}
    (same : ∀ part ∈ shape.parts, f part = g part) : shape.map f = shape.map g := by
  -- The parts of a level are its items or the values of its entries.
  cases shape with
  | leaf value => rfl
  | list items => exact congrArg Shape.list (List.map_congr_left same)
  | record entries =>
    refine congrArg Shape.record (List.map_congr_left fun entry member => ?_)
    rw [Prod.map, Prod.map, same entry.2 (List.mem_map_of_mem member)]

/-- A level of a kind that holds parts, whether it has any or not. -/
def Shape.Node (shape : Shape α) : Prop := ∀ value, shape ≠ .leaf value

/-- A list holds parts. -/
theorem Shape.node_list (items : List α) : (Shape.list items).Node := by
  intro value same
  cases same

/-- A record holds parts. -/
theorem Shape.node_record (entries : List (String × α)) : (Shape.record entries).Node := by
  intro value same
  cases same

/-- A held value that is there: a leaf that is no list and no record, or a cell among the cells. -/
def Held.Proper (cells : Cells) : Held → Prop
  | .leaf value => value.shape = .leaf value
  | .cell address => address < cells.length

/-- A held value of a level that may have parts is in a cell. -/
theorem Held.cell_of_node {cells : Cells} {held : Held} {shape : Shape Held}
    (level : held.shape cells = shape) (node : shape.Node) :
    ∃ address, held = .cell address ∧ cells[address]? = some shape := by
  -- A leaf is on a level of its own, and so is an address without a cell.
  cases held with
  | leaf value => exact absurd level.symm (node value)
  | cell address =>
    rw [Held.shape] at level
    cases found : cells[address]? with
    -- Where there is no cell the level is that of a missing value.
    | none =>
      rw [found] at level
      exact absurd level.symm (node .null)
    | some other =>
      rw [found, Option.getD_some] at level
      exact ⟨address, rfl, level ▸ found⟩

/-- What holds a part is a cell. -/
theorem Held.cell_of_mem {cells : Cells} {held part : Held}
    (member : part ∈ (held.shape cells).parts) :
    ∃ address shape, held = .cell address ∧ cells[address]? = some shape ∧
      part ∈ shape.parts := by
  -- Leaves have no parts, so the holder is on a level that may have some.
  have node : (held.shape cells).Node := by
    intro value same
    rw [same] at member
    cases member
  obtain ⟨address, same, found⟩ := Held.cell_of_node rfl node
  exact ⟨address, _, same, found, member⟩

/-- Cells whose parts are there and rank lower than the cells that hold them. -/
structure Ranked (cells : Cells) (rank : Nat → Nat) : Prop where
  below : ∀ address, address < cells.length → rank address < cells.length
  node : ∀ shape ∈ cells, shape.Node
  proper : ∀ shape ∈ cells, ∀ part ∈ shape.parts, part.Proper cells
  falls : ∀ address shape, cells[address]? = some shape →
    ∀ part, .cell part ∈ shape.parts → rank part < rank address

/-- Cells that hold each other without going round. -/
def Sound (cells : Cells) : Prop := ∃ rank, Ranked cells rank

/-- No cells go round. -/
theorem sound_nil : Sound [] :=
  ⟨id, by simp, by simp, by simp, by simp⟩

section

variable {cells : Cells} {held : Held}

/-- What a cell holds is there. -/
theorem Sound.proper (sound : Sound cells) :
    ∀ shape ∈ cells, ∀ part ∈ shape.parts, part.Proper cells := by
  obtain ⟨rank, ranked⟩ := sound
  exact ranked.proper

/-- What a held value holds is there. -/
theorem Sound.proper_part (sound : Sound cells) (held : Held) :
    ∀ part ∈ (held.shape cells).parts, part.Proper cells := by
  -- A part is held by a cell, and what cells hold is there.
  intro part member
  obtain ⟨address, shape, -, found, member⟩ := Held.cell_of_mem member
  exact sound.proper shape (List.mem_of_getElem? found) part member

/-- How deep a held value may nest, going by the ranks of cells. -/
def Held.depth (rank : Nat → Nat) : Held → Nat
  | .leaf _ => 1
  | .cell address => rank address + 2

/-- What a held value holds nests less deep. -/
theorem Ranked.depth_part {rank : Nat → Nat} (ranked : Ranked cells rank) :
    ∀ part ∈ (held.shape cells).parts, part.depth rank < held.depth rank := by
  -- The holder is a cell, and its parts rank below it.
  intro part member
  obtain ⟨address, shape, rfl, found, member⟩ := Held.cell_of_mem member
  cases part with
  | leaf value => simp [Held.depth]
  -- The rank of a part falls, and with it the depth.
  | cell lower =>
    have lowers := ranked.falls address shape found lower member
    simp only [Held.depth]
    omega

/-- What holds of a held value when it holds of all that the value holds, holds of all of them. -/
theorem Sound.induction {holds : Held → Prop} (sound : Sound cells)
    (step : ∀ held, held.Proper cells → (∀ part ∈ (held.shape cells).parts, holds part) →
      holds held) : ∀ held, held.Proper cells → holds held := by
  -- Sound cells have a ranking by which every part is lower than its holder.
  obtain ⟨rank, ranked⟩ := sound
  intro held
  -- The induction is on how deep the value may nest.
  induction nesting : held.depth rank using Nat.strongRecOn generalizing held with
  | ind depth ih =>
    intro proper
    refine step held proper fun part member => ?_
    exact ih _ (nesting ▸ ranked.depth_part part member) part rfl
      (Sound.proper_part ⟨rank, ranked⟩ held part member)

/-- One level of a plain value read off, with one level of depth used up. -/
theorem Held.valueWithin_succ (cells : Cells) (depth : Nat) (held : Held) :
    held.valueWithin cells (depth + 1) =
      ((held.shape cells).map (valueWithin cells depth)).value := by
  rw [Held.valueWithin]
  cases held.shape cells <;> rfl

/-- All depths that are deep enough read off the same value. -/
theorem Ranked.valueWithin_eq {rank : Nat → Nat} (ranked : Ranked cells rank)
    (proper : held.Proper cells) {depth depth' : Nat} (deep : held.depth rank ≤ depth)
    (deep' : held.depth rank ≤ depth') :
    held.valueWithin cells depth = held.valueWithin cells depth' := by
  -- Neither of the two depths is used up before a leaf is met.
  have positive : 0 < held.depth rank := by cases held <;> simp [Held.depth]
  -- Each level uses up one of both depths, and what is held nests less deep than its holder.
  induction depth generalizing held depth' with
  | zero => omega
  | succ depth ih =>
    cases depth' with
    | zero => omega
    | succ depth' =>
      rw [Held.valueWithin_succ, Held.valueWithin_succ]
      refine congrArg Shape.value (Shape.map_congr fun part member => ?_)
      have lower := ranked.depth_part part member
      have partPositive : 0 < part.depth rank := by cases part <;> simp [Held.depth]
      exact ih (Sound.proper_part ⟨rank, ranked⟩ held part member) (by omega) (by omega)
        partPositive

/-- A held value has the plain value of its level over the plain values of its parts. -/
theorem Sound.value_eq (sound : Sound cells) (proper : held.Proper cells) :
    held.value cells = ((held.shape cells).map (Held.value cells)).value := by
  -- A proper value has proper parts, so each of them nests less deep than there are cells.
  have proper_part := sound.proper_part held
  obtain ⟨rank, ranked⟩ := sound
  -- All nest less deep than there are cells, so it does not matter how deep a value is read.
  have bound : ∀ other : Held, other.Proper cells → other.depth rank ≤ cells.length + 1 := by
    intro other there
    cases other with
    | leaf value => simp [Held.depth]
    | cell address =>
      have low := ranked.below address there
      simp only [Held.depth]
      omega
  rw [Held.value, Held.valueWithin_succ]
  refine congrArg Shape.value (Shape.map_congr fun part member => ?_)
  have lower := ranked.depth_part part member
  have fits := bound held proper
  exact ranked.valueWithin_eq (proper_part part member) (by omega)
    (bound part (proper_part part member))

/-- The level of a plain value is that of the held one over the plain values of its parts. -/
theorem Sound.shape_value (sound : Sound cells) (proper : held.Proper cells) :
    (held.value cells).shape = (held.shape cells).map (Held.value cells) := by
  -- A level is made of parts that are values themselves, so reading it twice changes nothing.
  rw [sound.value_eq proper]
  obtain ⟨rank, ranked⟩ := sound
  cases held with
  | leaf value => exact proper
  | cell address =>
    -- No cell is a leaf, so the level is that of a list or a record.
    have node := ranked.node _ (List.getElem_mem proper)
    rw [Held.shape, List.getElem?_eq_getElem proper, Option.getD_some]
    cases same : cells[address] with
    | leaf value => exact absurd same (node value)
    | list items => rfl
    | record entries => rfl

end

/-- Held values whose levels stay as they are, and those of all that they hold, keep their value. -/
theorem value_congr {cells cells' : Cells} (kept : Held → Prop) (sound : Sound cells)
    (sound' : Sound cells') (proper : ∀ held, kept held → held.Proper cells ∧ held.Proper cells')
    (same : ∀ held, kept held → held.shape cells' = held.shape cells)
    (closed : ∀ held, kept held → ∀ part ∈ (held.shape cells).parts, kept part)
    {held : Held} (keeps : kept held) : held.value cells' = held.value cells := by
  -- The values agree level by level.
  have each : ∀ held, held.Proper cells → kept held → held.value cells' = held.value cells := by
    refine sound.induction fun held there ih keeps => ?_
    rw [sound'.value_eq (proper held keeps).2, same held keeps, sound.value_eq there]
    exact congrArg Shape.value (Shape.map_congr fun part member =>
      ih part member (closed held keeps part member))
  exact each held (proper held keeps).1 keeps

/-- Cells put behind others, which hold nothing but leaves and cells in front of them. -/
structure Behind (count : Nat) (added : Cells) : Prop where
  node : ∀ shape ∈ added, shape.Node
  leaf : ∀ shape ∈ added, ∀ value, .leaf value ∈ shape.parts → value.shape = .leaf value
  before : ∀ index shape, added[index]? = some shape →
    ∀ part, .cell part ∈ shape.parts → part < count + index

/-- Cells that are put behind others hold no cells behind themselves. -/
theorem Behind.below {count : Nat} {added : Cells} (behind : Behind count added) :
    ∀ shape ∈ added, ∀ part, .cell part ∈ shape.parts → part < count + added.length := by
  -- A cell of the row stands at a place in it, and holds only what is in front of that.
  intro shape member part held
  obtain ⟨index, found⟩ := List.mem_iff_getElem?.mp member
  have within : index < added.length := (List.getElem?_eq_some_iff.mp found).1
  have low := behind.before index shape found part held
  omega

/-- One cell over leaves and cells in front of it can be put behind these. -/
theorem behind_singleton {count : Nat} {shape : Shape Held} (node : shape.Node)
    (leaf : ∀ value, .leaf value ∈ shape.parts → value.shape = .leaf value)
    (lower : ∀ part, .cell part ∈ shape.parts → part < count) : Behind count [shape] where
  node := List.forall_mem_singleton.mpr node
  leaf := List.forall_mem_singleton.mpr leaf
  before := by
    intro index other found part held
    obtain rfl := List.mem_singleton.mp (List.mem_of_getElem? found)
    exact Nat.lt_add_right index (lower part held)

/-- Further cells can be put behind those that are put behind others. -/
theorem Behind.append {count : Nat} {added more : Cells} (first : Behind count added)
    (second : Behind (count + added.length) more) : Behind count (added ++ more) where
  node := List.forall_mem_append.mpr ⟨first.node, second.node⟩
  leaf := List.forall_mem_append.mpr ⟨first.leaf, second.leaf⟩
  before := by
    -- A place in the row is one of the first cells, or counts on from the last of them.
    intro index shape found part held
    by_cases early : index < added.length
    · rw [List.getElem?_append_left early] at found
      exact first.before index shape found part held
    · rw [List.getElem?_append_right (by omega)] at found
      have low := second.before _ shape found part held
      omega

/-- A held value that is there is there among more cells. -/
theorem Held.Proper.grow {cells cells' : Cells} {held : Held} (proper : held.Proper cells)
    (more : cells.length ≤ cells'.length) : held.Proper cells' := by
  -- An address that is there stays below the number of cells.
  cases held with
  | leaf value => exact proper
  | cell address => exact Nat.lt_of_lt_of_le proper more

/-- A held value that is there is in no new cell. -/
theorem Held.Proper.ne {cells : Cells} {held : Held} (proper : held.Proper cells) {address : Nat}
    (new : cells.length ≤ address) : held ≠ .cell address := by
  rintro rfl
  exact Nat.not_lt_of_le new proper

/-- A held value that is there stays there when cells are added. -/
theorem Held.Proper.append {cells : Cells} {held : Held} (proper : held.Proper cells)
    (added : Cells) : held.Proper (cells ++ added) :=
  proper.grow (by simp)

/-- Cells that do not go round still do not when such cells are put behind them. -/
theorem Sound.append {cells added : Cells} (sound : Sound cells)
    (behind : Behind cells.length added) : Sound (cells ++ added) := by
  obtain ⟨rank, ranked⟩ := sound
  -- The cells that are there keep their ranks, and each new one ranks by its address.
  refine ⟨fun address => if address < cells.length then rank address else address, ?_, ?_, ?_, ?_⟩
  · intro address there
    rw [List.length_append] at there ⊢
    split
    · have low := ranked.below address ‹_›
      omega
    · exact there
  · -- New cells are no leaves either.
    intro shape member
    exact (List.mem_append.mp member).elim (ranked.node shape) (behind.node shape)
  · -- Old parts are still there, and new ones are in front of the cell that holds them.
    intro shape member part held
    rcases List.mem_append.mp member with old | new
    · exact (ranked.proper shape old part held).append added
    · cases part with
      | leaf value => exact behind.leaf shape new value held
      | cell lower =>
        have low := behind.below shape new lower held
        simp only [Held.Proper, List.length_append]
        omega
  · -- Old cells rank as before; a new one is above old parts and above new ones in front of it.
    intro address shape found part held
    by_cases old : address < cells.length
    · rw [List.getElem?_append_left old] at found
      have lower : part < cells.length :=
        ranked.proper shape (List.mem_of_getElem? found) (.cell part) held
      simp only [old, lower, if_true]
      exact ranked.falls address shape found part held
    · rw [List.getElem?_append_right (by omega)] at found
      have low := behind.before _ shape found part held
      simp only [old, if_false]
      split
      · have low := ranked.below part ‹_›
        omega
      · omega

/-- Cells put behind others that hold none of these. -/
structure Island (count : Nat) (added : Cells) : Prop extends Behind count added where
  apart : ∀ shape ∈ added, ∀ part, .cell part ∈ shape.parts → count ≤ part

/-- Cells that do not go round still do not when one of them is given new parts out of cells that
hold none of them. -/
theorem Sound.set {cells added : Cells} (sound : Sound cells)
    (island : Island cells.length added) {address : Nat} {old shape : Shape Held}
    (found : cells[address]? = some old) (node : shape.Node)
    (parts : ∀ part ∈ shape.parts, part.Proper (cells ++ added) ∧
      (part ∈ old.parts ∨ ∀ lower, part = .cell lower → cells.length ≤ lower)) :
    Sound ((cells ++ added).set address shape) := by
  obtain ⟨rank, ranked⟩ := sound
  have there : address < cells.length := (List.getElem?_eq_some_iff.mp found).1
  have grown : Sound (cells ++ added) := Sound.append ⟨rank, ranked⟩ island.toBehind
  have proper : ∀ part : Held, part.Proper (cells ++ added) →
      part.Proper ((cells ++ added).set address shape) := by
    intro part inside
    cases part with
    | leaf value => exact inside
    | cell lower => rwa [Held.Proper, List.length_set]
  -- The new cells rank lowest, by their place among themselves, and the old ones above them.
  refine ⟨fun place => if place < cells.length then rank place + added.length
    else place - cells.length, ?_, ?_, ?_, ?_⟩
  · -- Every rank is below the number of cells, old ones moved up by the number of new ones.
    intro place within
    rw [List.length_set, List.length_append] at within ⊢
    split
    · have low := ranked.below place ‹_›
      omega
    · omega
  · intro other member
    obtain ⟨_, old⟩ := grown
    rcases List.mem_or_eq_of_mem_set member with kept | rfl
    · exact old.node other kept
    · exact node
  · -- The parts of the overwritten cell are there, as are all others.
    intro other member part held
    rcases List.mem_or_eq_of_mem_set member with kept | rfl
    · obtain ⟨_, old⟩ := grown
      exact proper part (old.proper other kept part held)
    · exact proper part (parts part held).1
  · intro place other at_place part held
    by_cases hit : address = place
    · -- The overwritten cell has old parts, which rank as before, or new ones, which rank lowest.
      subst hit
      have inside : address < ((cells ++ added).set address shape).length := by
        rw [List.length_set, List.length_append]
        omega
      rw [List.getElem?_set_self (by simpa using inside)] at at_place
      obtain rfl := Option.some.inj at_place
      obtain ⟨within, known | new⟩ := parts (.cell part) held
      · have lower := ranked.falls address old found part known
        have low : part < cells.length :=
          ranked.proper old (List.mem_of_getElem? found) (.cell part) known
        simp only [there, low, if_true]
        omega
      · have high := new part rfl
        simp only [Held.Proper, List.length_append] at within
        simp only [there, if_true, show ¬ part < cells.length by omega, if_false]
        omega
    · rw [List.getElem?_set_ne hit] at at_place
      by_cases early : place < cells.length
      · rw [List.getElem?_append_left early] at at_place
        have lower := ranked.falls place other at_place part held
        have low : part < cells.length :=
          ranked.proper other (List.mem_of_getElem? at_place) (.cell part) held
        simp only [early, low, if_true]
        omega
      · rw [List.getElem?_append_right (by omega)] at at_place
        have low := island.before _ other at_place part held
        have high := island.apart other (List.mem_of_getElem? at_place) part held
        simp only [early, if_false, show ¬ part < cells.length by omega]
        omega

/-- Cells put behind others leave every held value as it is. -/
theorem Held.value_append {cells added : Cells} {held : Held} (sound : Sound cells)
    (sound' : Sound (cells ++ added)) (proper : held.Proper cells) :
    held.value (cells ++ added) = held.value cells := by
  -- No held value that is there leads to the new cells, so all of them keep their levels.
  refine value_congr (Held.Proper cells) sound sound'
    (fun held there => ⟨there, there.append added⟩) (fun held there => ?_)
    (fun held _ => sound.proper_part held) proper
  cases held with
  | leaf value => rfl
  | cell address => rw [Held.shape, Held.shape, List.getElem?_append_left there]

/-- A cell behind all others has the value of its level over the values that its parts had
before. -/
theorem Sound.value_last {cells : Cells} {shape : Shape Held} (before : Sound cells)
    (sound : Sound (cells ++ [shape])) (parts : ∀ part ∈ shape.parts, part.Proper cells) :
    (Held.cell cells.length).value (cells ++ [shape]) = (shape.map (Held.value cells)).value := by
  -- The cell is read back one level deep, and no part of it sees the new cell.
  rw [sound.value_eq (by simp [Held.Proper]), Held.shape,
    List.getElem?_append_right (Nat.le_refl _), Nat.sub_self, List.getElem?_cons_zero,
    Option.getD_some]
  refine congrArg Shape.value (Shape.map_congr fun part member => ?_)
  exact Held.value_append before sound (parts part member)

/-- No cell holds the cell at an address. -/
def Unheld (cells : Cells) (address : Nat) : Prop := ∀ shape ∈ cells, .cell address ∉ shape.parts

/-- A cell that no cell holds is not held by one more that does not hold it. -/
theorem unheld_concat {cells : Cells} {address : Nat} {shape : Shape Held}
    (alone : Unheld cells address) (free : .cell address ∉ shape.parts) :
    Unheld (cells ++ [shape]) address :=
  List.forall_mem_append.mpr ⟨alone, List.forall_mem_singleton.mpr free⟩

/-- A cell that no cell holds is held by no cells that are put behind, either. -/
theorem Island.unheld_append {cells added : Cells} (island : Island cells.length added)
    {address : Nat} (there : address < cells.length) (alone : Unheld cells address) :
    Unheld (cells ++ added) address := by
  -- What the new cells hold is new.
  intro shape member held
  rcases List.mem_append.mp member with old | new
  · exact alone shape old held
  · have high := island.apart shape new address held
    omega

/-- A new cell that no new cell holds is held by no cell. -/
theorem Sound.unheld_new {cells : Cells} (sound : Sound cells) {added : Cells} {address : Nat}
    (new : cells.length ≤ address) (alone : Unheld added address) :
    Unheld (cells ++ added) address := by
  -- What the old cells hold is old.
  intro shape member held
  rcases List.mem_append.mp member with old | own
  · have low : address < cells.length := sound.proper shape old _ held
    omega
  · exact alone shape own held

/-- Cells put behind others such that no unheld cell becomes held. -/
structure Grown (cells cells' : Cells) : Prop where
  sound : Sound cells'
  behind : ∃ added, cells' = cells ++ added
  unheld : ∀ address, address < cells.length → Unheld cells address → Unheld cells' address

section

variable {cells cells' : Cells}

/-- No cells are put behind others. -/
theorem Grown.refl (sound : Sound cells) : Grown cells cells :=
  ⟨sound, ⟨[], by simp⟩, fun _ _ => id⟩

/-- There are no fewer cells than before. -/
theorem Grown.length_le (grown : Grown cells cells') : cells.length ≤ cells'.length := by
  obtain ⟨added, rfl⟩ := grown.behind
  simp

/-- The cells that were there are as before. -/
theorem Grown.same (grown : Grown cells cells') (address : Nat) (there : address < cells.length) :
    cells'[address]? = cells[address]? := by
  obtain ⟨added, rfl⟩ := grown.behind
  exact List.getElem?_append_left there

/-- The values that were there are as before. -/
theorem Grown.value_eq (grown : Grown cells cells') (sound : Sound cells) {held : Held}
    (proper : held.Proper cells) : held.value cells' = held.value cells := by
  obtain ⟨grownSound, ⟨added, rfl⟩, -⟩ := grown
  exact Held.value_append sound grownSound proper

/-- Cells that hold none of the old ones are put behind these. -/
theorem Island.grown {added : Cells} (island : Island cells.length added) (sound : Sound cells) :
    Grown cells (cells ++ added) :=
  ⟨sound.append island.toBehind, ⟨added, rfl⟩,
    fun _ there alone => island.unheld_append there alone⟩

end

/-- To overwrite a cell that no cell holds changes no held value but the one in that cell. -/
theorem Held.value_set {cells : Cells} {address : Nat} {shape : Shape Held} {held : Held}
    (sound : Sound cells) (sound' : Sound (cells.set address shape))
    (alone : Unheld cells address) (proper : held.Proper cells) (other : held ≠ .cell address) :
    held.value (cells.set address shape) = held.value cells := by
  -- No other held value leads to the cell, so all of them keep their levels.
  refine value_congr (fun held => held.Proper cells ∧ held ≠ .cell address) sound sound'
    ?_ ?_ ?_ ⟨proper, other⟩
  · rintro (value | place) ⟨there, -⟩
    · exact ⟨there, there⟩
    · exact ⟨there, by rwa [Held.Proper, List.length_set]⟩
  · rintro (value | place) ⟨there, apart⟩
    · rfl
    · have elsewhere : address ≠ place := fun same => apart (by rw [same])
      rw [Held.shape, Held.shape, List.getElem?_set_ne elsewhere]
  · -- A part that were the cell itself would be held, and nothing holds it.
    intro holder _ part member
    refine ⟨sound.proper_part holder part member, ?_⟩
    rintro rfl
    obtain ⟨place, shape, -, found, member⟩ := Held.cell_of_mem member
    exact alone shape (List.mem_of_getElem? found) member

end Tablewright
