import Tablewright.Proofs.Outcome
import Tablewright.Template.Check

/-! Compiling a source: it looks at nothing but code points, and it never lacks the source. -/

namespace Tablewright.Template

/-- The tokens of a template given by its code points. -/
def tokensOfChars (cs : List Char) : List Token :=
  let lines := Text.unixLines cs
  scanFrom lines.length (lines.length + 1) (.text true) lines

/-- The nodes of a template given by its tokens. -/
def nodesOfTokens (scanned : List Token) : Except SyntaxFault (List Node) := do
  let tokens ← checkFirst scanned
  let bound := tokens.length + 1
  let (nodes, _) ← (nodesWithin bound bound []).run tokens
  return nodes

/-- The nodes of a source given by its code points. -/
def compileChars (cs : List Char) : Except CompileFault (List Node) := do
  let nodes ← (nodesOfTokens (tokensOfChars cs)).mapError CompileFault.malformed
  checkNodes false nodes
  return nodes

/-- A source compiles as its code points do. -/
theorem compileNodes_eq_compileChars (source : String) :
    compileNodes source = compileChars source.toList := rfl

/-- A source compiles to the nodes that its code points compile to. -/
theorem compileNodes_of_chars {source : String} {cs : List Char} {nodes : List Node}
    (spelled : source.toList = cs) (compiled : (compileChars cs).toOption = some nodes) :
    compileNodes source = .ok nodes := by
  -- Only a success leaves something behind when the fault is forgotten.
  rw [compileNodes_eq_compileChars, spelled]
  cases made : compileChars cs with
  | error cause => simp [made, Except.toOption] at compiled
  | ok others => simpa [made, Except.toOption] using compiled

/-- A source that fails to make a template does not fail as one that is missing. -/
abbrev Present (result : Except CompileFault α) : Prop :=
  Avoids (fun fault => ∃ file, fault = .notAdded file) result

/-- A word that is unknown is another matter than a source that is missing. -/
theorem present_demand {lenient known : Bool} {cause : CompileFault}
    (other : ∀ file, cause ≠ .notAdded file) : Present (demand lenient known cause) := by
  -- What is demanded is there, or the fault is the one that was to be told.
  unfold demand
  split
  · exact avoids_ok _ ()
  · exact avoids_error fun ⟨file, same⟩ => other file same

mutual

/-- Checking an expression asks for no source. -/
theorem Expr.present_check (lenient : Bool) (expr : Expr) : Present (expr.check lenient) := by
  -- An expression is checked part by part, and each part passes on the faults of its own parts.
  cases expr with
  | null | bool | int | text | named => exact avoids_ok _ ()
  | member owner name => exact owner.present_check lenient
  | element owner key =>
    exact (owner.present_check lenient).bind fun _ => key.present_check lenient
  | call operation arguments =>
    exact (operation.present_check lenient).bind fun _ => present_checkExprs lenient arguments
  -- Filters and tests have to be known by name before their parts are checked.
  | filter name subject arguments | test name subject arguments =>
    exact (present_demand (by simp)).bind fun _ =>
      (subject.present_check lenient).bind fun _ => present_checkExprs lenient arguments
  | not operand => exact operand.present_check lenient
  | and left right | or left right =>
    exact (left.present_check lenient).bind fun _ => right.present_check lenient
  | compare first others =>
    exact (first.present_check lenient).bind fun _ => present_checkCompared lenient others
  | concat operands => exact present_checkExprs lenient operands
  | choose condition whenTrue whenFalse =>
    exact (condition.present_check true).bind fun _ =>
      (whenTrue.present_check true).bind fun _ => whenFalse.present_check true

/-- Checking expressions in a row asks for no source. -/
theorem present_checkExprs (lenient : Bool) (exprs : List Expr) :
    Present (checkExprs lenient exprs) := by
  cases exprs with
  | nil => exact avoids_ok _ ()
  | cons expr rest =>
    exact (expr.present_check lenient).bind fun _ => present_checkExprs lenient rest

/-- Checking compared operands asks for no source. -/
theorem present_checkCompared (lenient : Bool) (others : List (Bool × Expr)) :
    Present (checkCompared lenient others) := by
  cases others with
  | nil => exact avoids_ok _ ()
  | cons other rest =>
    exact (other.2.present_check lenient).bind fun _ => present_checkCompared lenient rest

end

mutual

/-- Checking a node asks for no source. -/
theorem Node.present_check (lenient : Bool) (node : Node) : Present (node.check lenient) := by
  -- Inserted files are looked at only when the template runs, so no check asks for one.
  cases node with
  | text s => exact avoids_ok _ ()
  | print value | bind name value | insert value => exact value.present_check lenient
  | branch cases otherwise =>
    exact (present_checkCases cases).bind fun _ => present_checkNodes true otherwise
  -- A loop checks its name first, then its elements, its body and what stands in for rounds.
  | each name elements body otherwise =>
    exact (present_demand (by simp)).bind fun _ =>
      (elements.present_check lenient).bind fun _ =>
        (present_checkNodes false body).bind fun _ => present_checkNodes false otherwise
  | capture name body => exact present_checkNodes false body

/-- Checking nodes in a row asks for no source. -/
theorem present_checkNodes (lenient : Bool) (nodes : List Node) :
    Present (checkNodes lenient nodes) := by
  cases nodes with
  | nil => exact avoids_ok _ ()
  | cons node rest =>
    exact (node.present_check lenient).bind fun _ => present_checkNodes lenient rest

/-- Checking branches asks for no source. -/
theorem present_checkCases (cases : List (Expr × List Node)) : Present (checkCases cases) := by
  cases cases with
  | nil => exact avoids_ok _ ()
  | cons entry rest =>
    exact (entry.1.present_check true).bind fun _ =>
      (present_checkNodes true entry.2).bind fun _ => present_checkCases rest

end

/-- A source that is there never fails as one that is missing. -/
theorem present_compileNodes (source : String) : Present (compileNodes source) := by
  -- A source is read before it is checked, and what is malformed is not missing.
  have read : Present ((nodesOf source).mapError CompileFault.malformed) := by
    rintro _ ⟨file, rfl⟩ same
    cases made : nodesOf source <;> rw [made] at same <;> cases same
  exact read.bind fun nodes => (present_checkNodes false nodes).bind fun _ => avoids_ok _ _

end Tablewright.Template
