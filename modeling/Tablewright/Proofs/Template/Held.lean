import Tablewright.Proofs.Template.Media
import Tablewright.Proofs.Template.Plain
import Tablewright.Proofs.Value.Placing

/-! Templates among values in cells: what relates their steps relates their runs, and where no
method is called they have the text that they have among plain values. -/

namespace Tablewright.Template

section

variable {rel : ∀ {α β : Type}, (α → β → Prop) → Except RunFault α → Except RunFault β → Prop}
  (lasting : Lasting rel)
include lasting

/-- Runs among plain values are related when their steps are. -/
theorem Lasting.plain : Matching Medium.plain Medium.plain (· = ·) rel where
  -- A step among plain values is a result, which stands in relation to itself.
  pure corresponding := lasting.same (plain_ok _) (.ok corresponding)
  bind := lasting.bind
  lift := lasting.refl
  leaf _ := rfl
  look := by
    rintro value _ rfl
    exact lasting.refl (plain_ok _)
  lookAll := by
    rintro row row' same
    rw [List.forall₂_eq_eq_eq] at same
    subst same
    exact lasting.refl (plain_ok _)
  elements := by
    rintro value _ rfl
    exact lasting.same (plain_run _) ((SameUpTo.eq _).imp fun _ _ same => by
      rw [List.forall₂_eq_eq_eq]
      exact same)
  member := by
    rintro value _ name rfl
    exact lasting.refl (plain_run _)
  element := by
    rintro value _ key rfl
    exact lasting.refl (plain_run _)

/-- Calls of members of plain values are related, too. -/
theorem Lasting.plain_sending : Sending Medium.plain Medium.plain (· = ·) rel := by
  rintro holder _ name member _ row row' - rfl same
  rw [List.forall₂_eq_eq_eq] at same
  subst same
  exact lasting.refl (plain_run _)

end

/-- To be the same up to values, with no template to be inserted at fault, is a relation that lasts
from one step to the next. -/
theorem lasting_plain :
    Lasting fun r result result' => SameUpTo r result result' ∧ Plain result := by
  -- A fault of the first run is that of the second, and then neither goes on.
  refine ⟨fun plain same => ⟨same, plain⟩, ?_⟩
  rintro α β γ δ r s first first' next next' ⟨same, plain⟩ following
  cases same with
  | error cause =>
    refine ⟨.error cause, ?_⟩
    intro fault isBad hit
    cases hit
    exact plain cause isBad rfl
  -- Values that correspond are all that the next step is given.
  | ok pair => exact following _ _ pair

/-- No expression inserts a template. -/
theorem Expr.plain_eval (scope : Context) (expr : Expr) : Plain (expr.eval scope) :=
  (lasting_plain.plain.eval expr (fun _ => lasting_plain.plain_sending)
    (List.forall₂_same.mpr fun _ _ => ⟨rfl, rfl⟩)).2

/-- What is told of the cells leaves them as they are. -/
@[simp] theorem run_reading (read : Cells → Except Fault α) (cells : Cells) :
    (reading read).run cells = run (read cells) >>= fun value => .ok (value, cells) := rfl

/-- A success is one among values in cells. -/
@[simp] theorem liftM_ok (value : α) :
    (liftM (.ok value : Except RunFault α) : Acting α) = pure value :=
  rfl

/-- To look at a plain value that is held as such is to have it. -/
@[simp] theorem look_leaf (value : Value) : Medium.held.look (.leaf value) = pure value := rfl

/-- A call of a method leaves the level that the method makes, and any other call leaves all. -/
theorem run_sendHeld (holder : Held) (name : String) (member : Held) (row : List Held)
    (cells : Cells) :
    (sendHeld holder name member row).run cells =
      match (holder.shape cells).method? cells name row with
      | some outcome => run outcome >>= fun done => .ok (done.2, holder.overwrite cells done.1)
      | none => run (call (member.value cells) (row.map (Held.value cells))) >>= fun value =>
        .ok (.leaf value, cells) := by
  -- The cells as they are decide whether the holder knows the method.
  cases found : (holder.shape cells).method? cells name row with
  | none =>
    simp only [sendHeld, StateT.run_bind, StateT.run_get, pure_bind, found]
    cases run (call (member.value cells) (row.map (Held.value cells))) <;> rfl
  -- The method tells the level that the holder has from then on.
  | some outcome =>
    simp only [sendHeld, StateT.run_bind, StateT.run_get, pure_bind, found]
    cases run outcome <;> rfl

section

variable {rel : ∀ {α β : Type}, (α → β → Prop) → Except RunFault α → Except RunFault β → Prop}
  (lasting : Lasting rel)
include lasting

/-- Runs among values in cells are related when their steps are, from any cells on. -/
def Throughout
    (rel : ∀ {α β : Type}, (α → β → Prop) → Except RunFault α → Except RunFault β → Prop)
    (r : α → β → Prop) (act : Acting α) (act' : Acting β) : Prop :=
  ∀ cells, rel (fun done done' => r done.1 done'.1 ∧ done.2 = done'.2) (act.run cells)
    (act'.run cells)

/-- What is told of the cells is told alike. -/
theorem Lasting.reading (read : Cells → Except Fault α) :
    Throughout rel (· = ·) (reading read) (reading read) := by
  -- Both read the same cells, which stay as they are.
  intro cells
  rw [run_reading]
  refine lasting.andThen (lasting.refl (plain_run _)) fun value => ?_
  exact lasting.same (plain_ok _) (.ok ⟨rfl, rfl⟩)

/-- A call of a method, or of what is no method, comes to the same wherever it is made. -/
theorem Lasting.sendHeld (holder : Held) (name : String) (member : Held) (row : List Held) :
    Throughout rel (· = ·) (sendHeld holder name member row) (sendHeld holder name member row) := by
  -- Whether the holder has the method or not, the step is one result and what is done with it.
  intro cells
  rw [run_sendHeld]
  split
  all_goals
    refine lasting.andThen (lasting.refl (plain_run _)) fun done => ?_
    exact lasting.same (plain_ok _) (.ok ⟨rfl, rfl⟩)

/-- Runs among values in cells are related when their steps are. -/
theorem Lasting.held : Matching Medium.held Medium.held (· = ·) (Throughout rel) where
  -- Both sides run among the same cells, and every step leaves the same ones behind.
  pure corresponding cells := lasting.same (plain_ok _) (.ok ⟨corresponding, rfl⟩)
  bind begun following cells := by
    refine lasting.bind (begun cells) ?_
    rintro ⟨value, left⟩ ⟨value', _⟩ ⟨corresponding, rfl⟩
    exact following value value' corresponding left
  lift plain cells := by
    refine lasting.andThen (lasting.refl plain) fun value => ?_
    exact lasting.same (plain_ok _) (.ok ⟨rfl, rfl⟩)
  leaf _ := rfl
  look := by
    rintro held _ rfl
    exact lasting.reading _
  lookAll := by
    rintro row row' same
    rw [List.forall₂_eq_eq_eq] at same
    subst same
    exact lasting.reading _
  elements := by
    rintro held _ rfl
    rw [List.forall₂_eq_eq_eq]
    exact lasting.reading _
  member := by
    rintro held _ name rfl
    exact lasting.reading _
  element := by
    rintro held _ key rfl
    exact lasting.reading _

/-- Calls of methods are related, too. -/
theorem Lasting.held_sending : Sending Medium.held Medium.held (· = ·) (Throughout rel) := by
  rintro holder _ name member _ row row' rfl rfl same
  rw [List.forall₂_eq_eq_eq] at same
  subst same
  exact lasting.sendHeld holder name member row

/-- Nodes among values in cells have related texts and leave the same cells, provided that sources
make related nodes if any are inserted. -/
theorem Lasting.shelfActs {shelf shelf' : Shelf} (nodes : List Node)
    (sources : anyInserts nodes = true → ∀ file, rel (· = ·)
      ((shelf.nodes file).mapError RunFault.unusable)
      ((shelf'.nodes file).mapError RunFault.unusable)) (entries : List (String × Held)) :
    Throughout rel (· = ·) (shelf.textIn .held nodes entries)
      (shelf'.textIn .held nodes entries) := by
  refine lasting.held.shelfText nodes (fun _ => lasting.held_sending) (fun may file cells => ?_)
    (List.forall₂_same.mpr fun _ _ => ⟨rfl, rfl⟩)
  -- To make the nodes of a source leaves the cells alone.
  refine lasting.andThen (sources may file) fun made => ?_
  exact lasting.same (plain_ok _) (.ok ⟨⟨rfl, fun _ => lasting.held_sending⟩, rfl⟩)

/-- Nodes give related texts, provided that sources make related nodes if any are inserted. -/
theorem Lasting.shelfText (shelf shelf' : Shelf) (nodes : List Node)
    (sources : anyInserts nodes = true → ∀ file, rel (· = ·)
      ((shelf.nodes file).mapError RunFault.unusable)
      ((shelf'.nodes file).mapError RunFault.unusable)) (context : Context) :
    rel (· = ·) (shelf.text nodes context) (shelf'.text nodes context) := by
  -- The text is what a run among new cells gives, and the cells are let go.
  rw [Shelf.text, Shelf.text]
  refine lasting.bind (lasting.shelfActs nodes sources _ _) ?_
  rintro ⟨text, left⟩ ⟨_, _⟩ ⟨rfl, rfl⟩
  exact lasting.refl (plain_ok text)

end

/-- Nodes that insert nothing act alike whatever stands on the shelf. -/
theorem Shelf.acts_of_not_inserts {nodes : List Node} (closed : anyInserts nodes = false)
    (shelf shelf' : Shelf) (entries : List (String × Held)) :
    shelf.textIn .held nodes entries = shelf'.textIn .held nodes entries := by
  -- No two shelves differ for nodes that look nothing up on them.
  refine funext fun cells => SameUpTo.eq_of (Lasting.sameUpTo.shelfActs nodes
    (fun may => absurd may (by simp [closed])) entries cells) ?_
  rintro ⟨text, left⟩ ⟨_, _⟩ ⟨rfl, rfl⟩
  rfl

/-- Nodes that insert nothing give the same text whatever stands on the shelf. -/
theorem Shelf.text_of_not_inserts {nodes : List Node} (closed : anyInserts nodes = false)
    (shelf shelf' : Shelf) (context : Context) :
    shelf.text nodes context = shelf'.text nodes context := by
  simp only [Shelf.text, Shelf.acts_of_not_inserts closed shelf shelf']

end Tablewright.Template
