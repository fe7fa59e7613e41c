import Tablewright.Proofs.Template.Held

/-! Templates that call no methods: among values in cells they have the text that they have among
the plain values, and they leave the cells as they are. -/

namespace Tablewright

/-- A held value that is there, and the plain value it has. -/
structure Held.ReadsAs (cells : Cells) (held : Held) (value : Value) : Prop where
  value_eq : held.value cells = value
  there : ∀ address, held = .cell address → address < cells.length

/-- A plain value stands for itself. -/
theorem Held.readsAs_leaf (cells : Cells) (value : Value) :
    (Held.leaf value).ReadsAs cells value := by
  -- A leaf is no cell, so there is nothing that would have to be there.
  refine ⟨rfl, ?_⟩
  intro address same
  cases same

/-- A held value that is there reads as what it holds. -/
theorem Held.Proper.readsAs {cells : Cells} {held : Held} (proper : held.Proper cells) :
    held.ReadsAs cells (held.value cells) :=
  ⟨rfl, fun address same => by simpa [same, Held.Proper] using proper⟩

/-- Held values in a row that are there, and the plain values they have. -/
theorem readsAs_row {cells : Cells} {row : List Held} (proper : ∀ held ∈ row, held.Proper cells) :
    List.Forall₂ (Held.ReadsAs cells) row (row.map (Held.value cells)) := by
  rw [List.forall₂_map_right_iff, List.forall₂_same]
  exact fun held member => (proper held member).readsAs

/-- Plain values in a row stand for themselves. -/
theorem readsAs_leaves (cells : Cells) (values : List Value) :
    List.Forall₂ (Held.ReadsAs cells) (values.map .leaf) values := by
  rw [List.forall₂_map_left_iff, List.forall₂_same]
  exact fun value _ => Held.readsAs_leaf cells value

/-- What a held value comes to one level deep: itself, or a list or a record over its parts. -/
inductive Held.Level (cells : Cells) : Held → Value → Prop where
  | leaf (value : Value) : Level cells (.leaf value) value
  | list {held : Held} {items : List Held} (level : held.shape cells = .list items)
    (proper : ∀ item ∈ items, item.Proper cells) :
    Level cells held (.list (items.map (Held.value cells)))
  | record {held : Held} {entries : List (String × Held)}
    (level : held.shape cells = .record entries)
    (proper : ∀ entry ∈ entries, entry.2.Proper cells) :
    Level cells held (.record (entries.map (Prod.map id (Held.value cells))))

section

variable {cells : Cells} (sound : Sound cells) {held : Held} {value : Value}
include sound

/-- Among cells that do not go round, a plain value is told level by level. -/
theorem Held.ReadsAs.level (reads : held.ReadsAs cells value) : held.Level cells value := by
  -- A leaf is its own level, and a cell is on the level it holds.
  obtain ⟨rfl, there⟩ := reads
  cases held with
  | leaf value => exact .leaf value
  | cell address =>
    -- A cell that is there holds a list or a record, never a leaf.
    have proper : (Held.cell address).Proper cells := there address rfl
    have parts := sound.proper_part (.cell address)
    rw [sound.value_eq proper]
    obtain ⟨rank, ranked⟩ := sound
    have node := ranked.node _ (List.getElem_mem proper)
    have found : (Held.cell address).shape cells = cells[address] := by
      rw [Held.shape, List.getElem?_eq_getElem proper, Option.getD_some]
    rw [← found] at node
    cases level : (Held.cell address).shape cells with
    | leaf value => exact absurd level (node value)
    | list items =>
      -- The parts of a level are there as the cell itself is.
      rw [level] at parts
      exact .list level parts
    | record entries =>
      rw [level] at parts
      exact .record level fun entry member => parts entry.2 (List.mem_map_of_mem member)

end

namespace Template

/-- What is read off plain values stands for itself among the held ones. -/
theorem sameUpTo_leaf (cells : Cells) (result : Except Fault Value) :
    SameUpTo (Held.ReadsAs cells) (result >>= fun value => pure (.leaf value)) result := by
  cases result with
  | error cause => exact .error cause
  | ok value => exact .ok (Held.readsAs_leaf cells value)

/-- What is found by an index is among the items. -/
theorem mem_of_itemAt? {items : List α} {index : Int} {item : α}
    (found : itemAt? items index = some item) : item ∈ items := by
  -- An index, counted from either end, falls on a place in the list or on none.
  unfold itemAt? at found
  split at found
  · exact List.mem_of_getElem? found
  · cases found

/-- The item at an index is found among others that are made of the items. -/
theorem itemAt?_map (f : α → β) (items : List α) (index : Int) :
    itemAt? (items.map f) index = (itemAt? items index).map f := by
  -- The places are those of the items, as the lengths are the same.
  unfold itemAt?
  rw [List.length_map]
  split
  · exact List.getElem?_map ..
  · rfl

/-- Runs among values in cells that leave the cells as they are, and have the outcome of plain
values up to what stands for what. -/
def Settled (cells : Cells) (r : α → β → Prop) (act : Acting α) (outcome : Except RunFault β) :
    Prop :=
  SameUpTo (fun done value => r done.1 value ∧ done.2 = cells) (act.run cells) outcome

/-- What is told of the cells leaves them as they are. -/
theorem Settled.reading {cells : Cells} {r : α → β → Prop} {read : Cells → Except Fault α}
    {result : Except Fault β} (same : SameUpTo r (read cells) result) :
    Settled cells r (reading read) (run result) := by
  -- A fault told of the cells is the plain one, and a value leaves the cells as they were.
  rw [Settled, run_reading]
  generalize read cells = outcome at same
  cases same with
  | error cause => exact .error _
  | ok pair => exact .ok ⟨pair, rfl⟩

section

variable {cells : Cells} (sound : Sound cells) {held : Held} {value : Value}
include sound

/-- The elements of a held value stand for those of its plain value. -/
theorem elements_settled (reads : held.ReadsAs cells value) :
    SameUpTo (List.Forall₂ (Held.ReadsAs cells)) (held.elements cells) value.elements := by
  -- Elements that are told of the plain value are held as leaves.
  have same := reads.value_eq
  have apart : ∀ elements : Except Fault (List Value), SameUpTo (List.Forall₂ (Held.ReadsAs cells))
      (do return (← elements).map .leaf) elements := by
    rintro (cause | values)
    · exact .error cause
    · exact .ok (readsAs_leaves cells values)
  -- A list has its own items; a leaf and a record have those of their plain values.
  cases reads.level sound with
  | leaf => exact apart _
  | list level proper =>
    rw [Held.elements, level]
    exact .ok (readsAs_row proper)
  | record level =>
    rw [Held.elements, level, same]
    exact apart _

/-- The member of a held value stands for that of its plain value. -/
theorem member_settled (reads : held.ReadsAs cells value) (name : String) :
    Settled cells (Held.ReadsAs cells) (Medium.held.member name held)
      (Medium.plain.member name value) := by
  -- Looking for a member changes no cell.
  have same := reads.value_eq
  refine .reading ?_
  -- Of the levels a record alone has entries.
  cases reads.level sound with
  | leaf => exact sameUpTo_leaf cells _
  | list level proper =>
    simp only [level, Shape.entry?, same]
    exact sameUpTo_leaf cells _
  | @record _ entries level proper =>
    simp only [level, Shape.entry?, same]
    -- A key is found among the held entries just where it is among the plain ones.
    cases part : lookup? name entries with
    | none => exact sameUpTo_leaf cells _
    | some found =>
      rw [Value.member, lookup?_map, part]
      exact .ok (proper (name, found) (mem_of_lookup? part)).readsAs

/-- The element of a held value stands for that of its plain value. -/
theorem element_settled (reads : held.ReadsAs cells value) (key : Value) :
    Settled cells (Held.ReadsAs cells) (Medium.held.element key held)
      (Medium.plain.element key value) := by
  -- Looking for an element changes no cell.
  have same := reads.value_eq
  refine .reading ?_
  cases reads.level sound with
  | leaf => exact sameUpTo_leaf cells _
  -- Only numbers are places in a list.
  | @list _ items level proper =>
    simp only [level, Shape.part?, same]
    cases part : key.index?.bind (itemAt? items) with
    | none => exact sameUpTo_leaf cells _
    | some found =>
      -- The item at the index is held, and its plain value is the plain item there.
      obtain ⟨index, counted, part⟩ := Option.bind_eq_some_iff.mp part
      have plain : Value.element? (.list (items.map (Held.value cells))) key =
          some (found.value cells) := by
        simp only [Value.element?, counted, Option.bind_some, itemAt?_map, part, Option.map_some]
      simp only [Value.element, plain]
      exact .ok (proper found (mem_of_itemAt? part)).readsAs
  | @record _ entries level proper =>
    simp only [level, Shape.part?, same]
    -- Only texts are keys of records.
    cases key with
    | text name =>
      dsimp only
      cases part : lookup? name entries with
      | none => exact sameUpTo_leaf cells _
      | some found =>
        simp only [Value.element, Value.element?, lookup?_map, part]
        exact .ok (proper (name, found) (mem_of_lookup? part)).readsAs
    | _ => exact sameUpTo_leaf cells _

/-- Among cells that do not go round, what is done to held values comes to what is done to the
plain ones, unless methods are called. -/
theorem matching_settled :
    Matching Medium.held Medium.plain (Held.ReadsAs cells) (Settled cells) where
  -- Every step but a call of a method reads the cells, and none of these steps changes them.
  pure corresponding := .ok ⟨corresponding, rfl⟩
  bind begun following := by
    refine SameUpTo.bind begun ?_
    rintro ⟨value, _⟩ value' ⟨corresponding, rfl⟩
    exact following value value' corresponding
  lift {_ result} _ := by
    cases result with
    | error cause => exact .error cause
    | ok value => exact .ok ⟨rfl, rfl⟩
  leaf := Held.readsAs_leaf cells
  look {held value} reads := by
    have same : SameUpTo (· = ·) (Except.ok (held.value cells) : Except Fault Value) (.ok value) :=
      .ok reads.value_eq
    show Settled cells (· = ·) (reading fun cells => pure (held.value cells)) (run (.ok value))
    exact .reading same
  -- A row is looked at as a whole, so its plain values are told item by item first.
  lookAll {row values} reads := by
    have same : row.map (Held.value cells) = values := by
      induction reads with
      | nil => rfl
      | cons head _ ih => rw [List.map_cons, head.value_eq, ih]
    have alike : SameUpTo (· = ·)
        (Except.ok (row.map (Held.value cells)) : Except Fault (List Value)) (.ok values) :=
      .ok same
    show Settled cells (· = ·) (reading fun cells => pure (row.map (Held.value cells)))
      (run (.ok values))
    exact .reading alike
  elements reads := .reading (elements_settled sound reads)
  member name reads := member_settled sound reads name
  element key reads := element_settled sound reads key

end

/-- Nodes that call no methods, and neither do the sources that they may insert. -/
def Shelf.Passive (shelf : Shelf) (nodes : List Node) : Prop :=
  bodySends nodes = false ∧ (anyInserts nodes = true →
    ∀ file made, shelf.nodes file = .ok made → bodySends made = false)

/-- Nodes that neither call a method nor insert anything call no methods anywhere. -/
theorem Shelf.Passive.of_closed {nodes : List Node} (unsent : bodySends nodes = false)
    (closed : anyInserts nodes = false) (shelf : Shelf) : shelf.Passive nodes :=
  ⟨unsent, fun may => absurd may (by simp [closed])⟩

section

variable {shelf : Shelf} {nodes : List Node} (passive : shelf.Passive nodes)
include passive

/-- Nodes that call no methods are settled on the text that they have among the plain values. -/
theorem Shelf.Passive.settled {cells : Cells} (sound : Sound cells)
    {entries : List (String × Held)} {context : Context}
    (scopes : ScopesMatch (Held.ReadsAs cells) entries context) :
    Settled cells (· = ·) (shelf.textIn .held nodes entries)
      (shelf.textIn .plain nodes context) := by
  -- That the nodes and all sources call no methods leaves nothing to be asked of methods.
  obtain ⟨unsent, sources⟩ := passive
  refine (matching_settled sound).shelfText nodes (fun may => absurd may (by simp [unsent]))
    (fun may file => ?_) scopes
  -- The sources call none either, so nothing is asked of methods.
  cases made : shelf.nodes file with
  | error cause => exact .error _
  | ok inside =>
    exact .ok ⟨⟨rfl, fun sends => absurd sends (by simp [sources may file inside made])⟩, rfl⟩

/-- Nodes that call no methods have the text that they have among the plain values, and leave the
cells as they are. -/
theorem Shelf.Passive.run_textIn {cells : Cells} (sound : Sound cells)
    {entries : List (String × Held)} {context : Context}
    (scopes : ScopesMatch (Held.ReadsAs cells) entries context) :
    (shelf.textIn .held nodes entries).run cells =
      (shelf.textIn .plain nodes context).map fun text => (text, cells) := by
  -- The run is settled; what is left is to read its outcome off in the two cases.
  have settled := passive.settled sound scopes
  rw [Settled] at settled
  generalize (shelf.textIn .held nodes entries).run cells = outcome at settled ⊢
  generalize shelf.textIn .plain nodes context = plain at settled ⊢
  cases settled with
  | error cause => rfl
  | @ok done text pair =>
    obtain ⟨shown, left⟩ := done
    obtain ⟨rfl, rfl⟩ := pair
    rfl

end

/-- A context is kept in cells that do not go round, and reads as itself there. -/
theorem ofContext_readsAs (context : Context) :
    Sound (Holding.ofContext context).cells ∧
      ScopesMatch (Held.ReadsAs (Holding.ofContext context).cells)
        (Holding.ofContext context).entries context := by
  -- The cells are made for the context alone, so there is nothing in them to begin with.
  obtain ⟨entries, cells, ran, island, row, same⟩ := Held.run_ofEntries context [] sound_nil
  rw [List.nil_append] at ran same
  have made : Holding.ofContext context = ⟨entries, cells⟩ := by rw [Holding.ofContext, ran]
  rw [made]
  refine ⟨sound_nil.append island.toBehind, ?_⟩
  rw [← same, ScopesMatch, List.forall₂_map_right_iff, List.forall₂_same]
  intro entry member
  have placed := row.placed entry.2 (List.mem_map_of_mem member)
  exact ⟨rfl, (Held.Placed.proper placed).readsAs⟩

/-- The text of nodes among plain values: that of the nodes at the full depth, unless the context
takes the reserved name. -/
theorem Shelf.textIn_plain (shelf : Shelf) (nodes : List Node) (context : Context) :
    shelf.textIn .plain nodes context =
      if (lookup? reservedName context).isSome then .error (.reservedName reservedName)
      else renderNodes (shelf.insert insertDepth) (context ++ helpers) nodes >>= fun rendered =>
        .ok rendered.1 := by
  have same : helpers.map (Prod.map id Medium.plain.leaf) = helpers := List.map_id _
  unfold Shelf.textIn
  rw [same]
  -- The depth is kept from being counted out.
  generalize insertDepth = depth
  split <;> rfl

/-- Nodes that call no methods have the text that they have among the plain values. -/
theorem Shelf.Passive.text_eq {shelf : Shelf} {nodes : List Node} (passive : shelf.Passive nodes)
    (context : Context) :
    shelf.text nodes context =
      if (lookup? reservedName context).isSome then .error (.reservedName reservedName)
      else renderNodes (shelf.insert insertDepth) (context ++ helpers) nodes >>= fun rendered =>
        .ok rendered.1 := by
  -- The text is told by the run among cells, which is the run among the plain values.
  obtain ⟨sound, scopes⟩ := ofContext_readsAs context
  rw [← Shelf.textIn_plain, Shelf.text, StateT.run'_eq, passive.run_textIn sound scopes]
  cases shelf.textIn .plain nodes context <;> rfl

end Template

end Tablewright
