import Tablewright.Proofs.Outcome
import Tablewright.Proofs.Value.Placing
import Tablewright.Proofs.Value.Corresponding
import Tablewright.Settings.Merge

/-! What is done to held values is what is done to plain ones, and it gives no hidden cell away. -/

namespace Tablewright

/-- Cells that do not go round, some of which are hidden: they are there, and no cell holds them. -/
structure Heap (hidden : Nat → Prop) (cells : Cells) : Prop where
  sound : Sound cells
  known : ∀ address, hidden address → address < cells.length
  unheld : ∀ address, hidden address → Unheld cells address

/-- A held value that is in no hidden cell. -/
def Held.Free (hidden : Nat → Prop) (held : Held) : Prop :=
  ∀ address, held = .cell address → ¬ hidden address

/-- A held value that stands for a plain one. -/
structure Stands (cells : Cells) (held : Held) (value : Value) : Prop where
  proper : held.Proper cells
  value_eq : held.value cells = value

/-- A held value that stands for a plain one and is in no hidden cell. -/
structure Shows (hidden : Nat → Prop) (cells : Cells) (held : Held) (value : Value) : Prop
    extends Stands cells held value where
  free : held.Free hidden

section

variable {hidden fewer : Nat → Prop} {cells added : Cells} {held : Held} {value : Value}

/-- Fewer cells may be hidden. -/
theorem Heap.mono (heap : Heap hidden cells) (within : ∀ address, fewer address → hidden address) :
    Heap fewer cells :=
  ⟨heap.sound, fun address few => heap.known address (within address few),
    fun address few => heap.unheld address (within address few)⟩

/-- To hide all cells that no cell holds is to leave them unheld. -/
theorem Heap.grown {cells' : Cells} (heap : Heap hidden cells')
    (behind : ∃ added, cells' = cells ++ added)
    (hides : ∀ address, address < cells.length → Unheld cells address → hidden address) :
    Grown cells cells' :=
  ⟨heap.sound, behind, fun address there alone => heap.unheld address (hides address there alone)⟩

/-- A leaf is in no cell. -/
theorem Shows.leaf (hidden : Nat → Prop) (cells : Cells) (leaf : value.shape = .leaf value) :
    Shows hidden cells (.leaf value) value :=
  ⟨⟨leaf, rfl⟩, fun _ same => by cases same⟩

/-- What stands for a value still does once cells are put behind the others. -/
theorem Stands.append (stands : Stands cells held value) (sound : Sound cells)
    (grown : Sound (cells ++ added)) : Stands (cells ++ added) held value :=
  ⟨stands.proper.append added,
    (Held.value_append sound grown stands.proper).trans stands.value_eq⟩

/-- What shows a value still does once cells are put behind the others. -/
theorem Shows.append (shows' : Shows hidden cells held value) (sound : Sound cells)
    (grown : Sound (cells ++ added)) : Shows hidden (cells ++ added) held value :=
  ⟨shows'.toStands.append sound grown, shows'.free⟩

/-- A held value has the level of the plain one, over parts that show those of the plain one. -/
theorem Stands.shape (stands : Stands cells held value) (heap : Heap hidden cells) :
    value.shape = (held.shape cells).map (Held.value cells) ∧
      ∀ part ∈ (held.shape cells).parts, Shows hidden cells part (part.value cells) := by
  -- A part that may be hidden would be held by this very value, which is seen.
  refine ⟨stands.value_eq ▸ heap.sound.shape_value stands.proper, fun part member => ?_⟩
  refine ⟨⟨heap.sound.proper_part held part member, rfl⟩, ?_⟩
  rintro address rfl hides
  obtain ⟨place, shape, -, found, member⟩ := Held.cell_of_mem member
  exact heap.unheld address hides shape (List.mem_of_getElem? found) member

end

/-- A held value in a new cell that no cell holds, and which may be hidden from now on. -/
def Fresh (hidden : Nat → Prop) (count : Nat) (cells : Cells) (held : Held) : Prop :=
  ∃ address, held = .cell address ∧ count ≤ address ∧
    Heap (fun other => hidden other ∨ other = address) cells

/-- A cell that is new behind many cells is new behind fewer. -/
theorem Fresh.mono {hidden : Nat → Prop} {count fewer : Nat} {cells : Cells} {held : Held}
    (fresh : Fresh hidden count cells held) (less : fewer ≤ count) :
    Fresh hidden fewer cells held := by
  obtain ⟨address, same, new, heap⟩ := fresh
  exact ⟨address, same, Nat.le_trans less new, heap⟩

/-- A list or a record over parts that show plain ones is kept in a new cell that may be hidden. -/
theorem Heap.keep {hidden : Nat → Prop} {cells : Cells} (heap : Heap hidden cells)
    {shape : Shape Held} (node : shape.Node) {plain : Shape Value}
    (same : shape.map (Held.value cells) = plain)
    (parts : ∀ part ∈ shape.parts, Shows hidden cells part (part.value cells)) :
    (Held.allocate shape).run cells = (.cell cells.length, cells ++ [shape]) ∧
      Heap (fun address => hidden address ∨ address = cells.length) (cells ++ [shape]) ∧
      Stands (cells ++ [shape]) (.cell cells.length) plain.value := by
  -- The new cell goes behind all others, and what it holds was there before it.
  have proper : ∀ part, .cell part ∈ shape.parts → part < cells.length :=
    fun part member => (parts _ member).proper
  -- The parts are old, so the cell is sound on its own.
  have behind : Behind cells.length [shape] :=
    behind_singleton node (fun _ held => (parts _ held).proper) proper
  have grown := heap.sound.append behind
  -- No old cell knew of the new address, and the new one holds nothing that is hidden.
  have unheld : ∀ address, hidden address ∨ address = cells.length →
      Unheld (cells ++ [shape]) address := by
    rintro address (before | rfl)
    · exact unheld_concat (heap.unheld address before) fun held =>
        (parts _ held).free address rfl before
    · refine unheld_concat (fun other member held => ?_) fun held => ?_
      · exact Nat.lt_irrefl _ (heap.sound.proper other member _ held)
      · exact Nat.lt_irrefl _ (proper _ held)
  -- The new address is the last one there is.
  have known : ∀ address, hidden address ∨ address = cells.length →
      address < (cells ++ [shape]).length := by
    intro address hides
    rw [List.length_append, List.length_singleton]
    rcases hides with before | rfl
    · have low := heap.known address before
      omega
    · omega
  refine ⟨Held.run_allocate node cells, ⟨grown, known, unheld⟩, by simp [Held.Proper], ?_⟩
  rw [← same]
  exact heap.sound.value_last grown fun part member => (parts part member).proper

/-- A step on held values ends as one on plain values does, behind new cells that hold nothing
hidden, and its results correspond. -/
def Mirrors (hidden : Nat → Prop) (cells : Cells) (step : ExceptT ε (StateM Cells) α)
    (plain : ExceptT ε Id β) (corresponds : Cells → α → β → Prop) : Prop :=
  ∃ outcome added, step.run.run cells = (outcome, cells ++ added) ∧
    Heap hidden (cells ++ added) ∧ SameUpTo (corresponds (cells ++ added)) outcome plain.run

section

variable {hidden : Nat → Prop} {cells : Cells} {corresponds : Cells → α → β → Prop}

/-- Corresponding results are mirrored. -/
theorem Mirrors.pure (heap : Heap hidden cells) {result : α} {result' : β}
    (pair : corresponds cells result result') :
    Mirrors hidden cells (Pure.pure result : ExceptT ε (StateM Cells) α) (Pure.pure result')
      corresponds :=
  ⟨.ok result, [], by rw [List.append_nil]; rfl, by rwa [List.append_nil],
    by rw [List.append_nil]; exact .ok pair⟩

/-- A fault is mirrored. -/
theorem Mirrors.throw (heap : Heap hidden cells) (cause : ε) :
    Mirrors hidden cells (MonadExcept.throw cause : ExceptT ε (StateM Cells) α)
      (MonadExcept.throw cause) corresponds :=
  ⟨.error cause, [], by rw [List.append_nil]; rfl, by rwa [List.append_nil], .error cause⟩

/-- Steps that are mirrored one after another are mirrored together. -/
theorem Mirrors.bind {corresponds' : Cells → γ → δ → Prop} {first : ExceptT ε (StateM Cells) α}
    {first' : ExceptT ε Id β} {next : α → ExceptT ε (StateM Cells) γ} {next' : β → ExceptT ε Id δ}
    (begun : Mirrors hidden cells first first' corresponds)
    (following : ∀ added result result', Heap hidden (cells ++ added) →
      corresponds (cells ++ added) result result' →
      Mirrors hidden (cells ++ added) (next result) (next' result') corresponds') :
    Mirrors hidden cells (first >>= next) (first' >>= next') corresponds' := by
  -- The outcome of the first step is the same on both sides, up to where its value is held.
  obtain ⟨outcome, added, ran, heap, same⟩ := begun
  generalize ended : first'.run = plain at same
  cases same with
  -- A fault of the first step ends both runs.
  | error cause =>
    refine ⟨.error cause, added, ?_, heap, ?_⟩
    · rw [ExceptT.run_bind, run_bind_of_run ran]
      rfl
    · rw [ExceptT.run_bind, ended]
      exact .error cause
  | @ok result result' pair =>
    -- The second step goes on behind the cells of the first one.
    obtain ⟨outcome', more, ran', heap', same'⟩ := following added result result' heap pair
    refine ⟨outcome', added ++ more, ?_, ?_, ?_⟩
    · rw [ExceptT.run_bind, run_bind_of_run ran, ← List.append_assoc]
      exact ran'
    · rwa [← List.append_assoc]
    · rw [ExceptT.run_bind, ended, ← List.append_assoc]
      exact same'

/-- What is mirrored with more cells hidden is mirrored with fewer. -/
theorem Mirrors.mono {step : ExceptT ε (StateM Cells) α} {plain : ExceptT ε Id β}
    {more : Nat → Prop} (mirrors : Mirrors more cells step plain corresponds)
    (within : ∀ address, hidden address → more address) :
    Mirrors hidden cells step plain corresponds := by
  obtain ⟨outcome, added, ran, heap, same⟩ := mirrors
  exact ⟨outcome, added, ran, heap.mono within, same⟩

/-- To look at what stands for a value is to look at the value. -/
theorem Mirrors.view {held : Held} {value : Value} (heap : Heap hidden cells)
    (stands : Stands cells held value) {next : Shape Held → ExceptT ε (StateM Cells) α}
    {next' : Shape Value → ExceptT ε Id β}
    (following : (∀ part ∈ (held.shape cells).parts, Shows hidden cells part (part.value cells)) →
      Mirrors hidden cells (next (held.shape cells))
        (next' ((held.shape cells).map (Held.value cells))) corresponds) :
    Mirrors hidden cells (liftM (Held.keeper.view held) >>= next)
      (liftM (Keeper.plain.view value) >>= next') corresponds := by
  -- The plain side sees the level of the value, which is that of the held one.
  obtain ⟨same, parts⟩ := stands.shape heap
  obtain ⟨outcome, added, ran, grown, alike⟩ := following parts
  refine ⟨outcome, added, ran, grown, ?_⟩
  rw [← same] at alike
  exact alike

/-- A leaf is kept as it is. -/
theorem Mirrors.keepLeaf (heap : Heap hidden cells) {value : Value}
    (leaf : value.shape = .leaf value) :
    Mirrors hidden cells (liftM (Held.keeper.keep (.leaf value)) : ExceptT ε (StateM Cells) Held)
      (liftM (Keeper.plain.keep (.leaf value))) (Shows hidden) :=
  Mirrors.pure heap (Shows.leaf hidden cells leaf)

/-- What is mirrored corresponds in weaker ways, too. -/
theorem Mirrors.imp {step : ExceptT ε (StateM Cells) α} {plain : ExceptT ε Id β}
    {weaker : Cells → α → β → Prop} (mirrors : Mirrors hidden cells step plain corresponds)
    (weaken : ∀ added result result', Heap hidden (cells ++ added) →
      corresponds (cells ++ added) result result' → weaker (cells ++ added) result result') :
    Mirrors hidden cells step plain weaker := by
  obtain ⟨outcome, added, ran, heap, same⟩ := mirrors
  exact ⟨outcome, added, ran, heap, same.imp fun result result' => weaken added result result' heap⟩

/-- A list or a record is kept in a new cell, which may be hidden from then on. -/
theorem Mirrors.keep (heap : Heap hidden cells) {shape : Shape Held} (node : shape.Node)
    {plain : Shape Value} (same : shape.map (Held.value cells) = plain)
    (parts : ∀ part ∈ shape.parts, Shows hidden cells part (part.value cells)) :
    Mirrors hidden cells (liftM (Held.keeper.keep shape) : ExceptT ε (StateM Cells) Held)
      (liftM (Keeper.plain.keep plain)) fun cells' held value =>
        Stands cells' held value ∧ Fresh hidden cells.length cells' held := by
  -- The cell is the one that `Heap.keep` speaks of, and the step cannot fail.
  obtain ⟨ran, grown, shown⟩ := heap.keep node same parts
  refine ⟨.ok (.cell cells.length), [shape], ?_, grown.mono fun _ => .inl,
    .ok ⟨shown, _, rfl, Nat.le_refl _, grown⟩⟩
  change (Held.allocate shape >>= fun held => Pure.pure (Except.ok held)).run cells = _
  rw [run_bind_of_run ran]
  rfl

end

end Tablewright
