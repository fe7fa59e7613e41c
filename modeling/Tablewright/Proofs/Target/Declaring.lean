import Tablewright.Proofs.Naming
import Tablewright.Proofs.Target.Identifier
import Tablewright.Proofs.Target.Warnings

/-! Names that generated source may declare: what the checks let through, and what they miss. -/

namespace Tablewright.Target

/-- The keywords of Go, in the order in which its specification lists them. -/
def keywords : List String :=
  ["break", "default", "func", "interface", "select", "case", "defer", "go", "map", "struct",
    "chan", "else", "goto", "package", "switch", "const", "fallthrough", "if", "range", "type",
    "continue", "for", "import", "return", "var"]

/-- The identifiers that Go declares before any program, in the order of its specification:
types, constants, the zero value and functions. -/
def universeNames : List String :=
  ["any", "bool", "byte", "comparable", "complex64", "complex128", "error", "float32", "float64",
    "int", "int8", "int16", "int32", "int64", "rune", "string", "uint", "uint8", "uint16",
    "uint32", "uint64", "uintptr", "true", "false", "iota", "nil", "append", "cap", "clear",
    "close", "complex", "copy", "delete", "imag", "len", "make", "max", "min", "new", "panic",
    "print", "println", "real", "recover"]

/-- The constants and the zero value, which the table of predeclared words leaves out. -/
def overlooked : List String := ["true", "false", "iota", "nil"]

/-- The reserved words are the keywords. -/
theorem mem_reservedWords_iff {name : String} : name ∈ reservedWords ↔ name ∈ keywords := by
  -- The two lists are in different orders and hold the same words.
  have known : reservedWords.Perm keywords := by decide
  exact known.mem_iff

/-- The predeclared words are all that Go declares but the overlooked names. -/
theorem mem_predeclared_iff {name : String} :
    name ∈ predeclared ↔ name ∈ universeNames ∧ name ∉ overlooked := by
  have kept : predeclared = universeNames.filter fun word => !overlooked.contains word := by decide
  simp [kept]

/-- Among names of ASCII nothing is wrong with those that are spelled plainly and are neither
keywords nor predeclared, unless they are overlooked. -/
theorem nameProblems_ascii {name : String} (ascii : ∀ c ∈ name.toList, c.toNat < 128) :
    nameProblems name = [] ↔
      Text.SpelledPlainly name ∧ name ∉ keywords ∧ (name ∈ universeNames → name ∈ overlooked) := by
  rw [nameProblems_eq_nil_iff, Text.isIdentifier_iff_spelledPlainly ascii, mem_reservedWords_iff,
    mem_predeclared_iff, not_and_not_right]

/-- A table of which nothing is said has a variable of a predeclared name exactly when the only
segment of its own name is overlooked. -/
theorem Usable.predeclared_iff {table : String} {columns : List TextColumn}
    (usable : Usable table columns) :
    Naming.variableName table ∈ universeNames ↔
      ∃ word ∈ overlooked, Naming.segments table.toList = [word.toList] := by
  -- The table of predeclared words catches all names but the overlooked ones.
  have missed : Naming.variableName table ∈ universeNames ↔
      Naming.variableName table ∈ overlooked := by
    have caught := (nameProblems_eq_nil_iff.mp usable.variableFit).2.2
    rw [mem_predeclared_iff, not_and_not_right] at caught
    have declared : ∀ word ∈ overlooked, word ∈ universeNames := by decide
    exact ⟨caught, declared _⟩
  have spelled : ∀ word ∈ overlooked, word ≠ "" ∧ ∀ c ∈ word.toList, c.isLower := by
    simp [overlooked]
  rw [missed, Naming.variableName_mem_iff spelled]

/-- The checks let a name of ASCII through exactly when it is spelled plainly and is neither a
keyword nor predeclared, but for four names; and where nothing is said of a table of the name, its
variable shadows a predeclared name exactly when the only segment is one of these. -/
theorem names_pass_unless_known {name : String} (ascii : ∀ c ∈ name.toList, c.toNat < 128)
    (columns : List TextColumn) (package : Value) (imports : List String) :
    (nameProblems name = [] ↔
      (∃ first rest, name.toList = first :: rest ∧ (first.isAlpha ∨ first = '_') ∧
        ∀ c ∈ rest, c.isAlphanum ∨ c = '_') ∧
      name ∉ keywords ∧
      (name ∈ universeNames → name ∈ ["true", "false", "iota", "nil"])) ∧
    (((TableData.ofTexts name columns package imports).context >>= warnings) = .ok [] →
      (Naming.variableName name ∈ universeNames ↔
        ∃ word ∈ ["true", "false", "iota", "nil"],
          Naming.segments name.toList = [word.toList])) := by
  refine ⟨nameProblems_ascii ascii, fun silent => ?_⟩
  exact (silent_iff_usable.mp silent).predeclared_iff

/-- The one column of a table. -/
def keyColumn : List TextColumn := [⟨"id", "int", .bool false⟩]

/-- Each of these tables can be used, as far as the checks tell. -/
theorem usable_overlooked : ∀ table ∈ ["nil", "_iota_"], Usable table keyColumn := by
  -- Both names are short enough for all conditions to be computed.
  intro table member
  simp only [List.mem_cons, List.not_mem_nil, or_false] at member
  rcases member with rfl | rfl
  all_goals
    exact ⟨by simp [keyColumn], by simp [keyColumn], by decide +kernel, by decide +kernel,
      by decide +kernel, by simp only [keyColumn, List.mem_singleton, forall_eq]; decide +kernel,
      by decide +kernel⟩

/-- The name `roles` passes and `string` does not; a table `_iota_` has a variable that shadows. -/
theorem names_pass_unless_known_iota :
    nameProblems "roles" = [] ∧ nameProblems "string" ≠ [] ∧
    ((TableData.ofTexts "_iota_" keyColumn (.text "models") []).context >>= warnings) = .ok [] ∧
    Naming.variableName "_iota_" ∈ universeNames := by
  -- The two directions of the general statement tell the names apart.
  have silent : ((TableData.ofTexts "_iota_" keyColumn (.text "models") []).context >>= warnings) =
      .ok [] :=
    silent_iff_usable.mpr (usable_overlooked "_iota_" (by simp))
  refine ⟨?_, ?_, silent, ?_⟩
  · -- A plain name that is no predeclared word passes.
    have ascii : ∀ c ∈ "roles".toList, c.toNat < 128 := by simp
    have plain : "roles".toList = ['r', 'o', 'l', 'e', 's'] := by simp
    have passes := (names_pass_unless_known ascii [] (.text "models") []).1
    exact passes.mpr ⟨⟨_, _, plain, by simp⟩, by decide⟩
  · -- A predeclared word does not.
    have ascii : ∀ c ∈ "string".toList, c.toNat < 128 := by simp
    have passes := (names_pass_unless_known ascii [] (.text "models") []).1
    intro passed
    exact absurd (passes.mp passed).2.2 (by decide)
  · -- The only segment is one of the words that are overlooked.
    have ascii : ∀ c ∈ "_iota_".toList, c.toNat < 128 := by simp
    have shadows := (names_pass_unless_known ascii keyColumn (.text "models") []).2 silent
    exact shadows.mpr ⟨"iota", by decide⟩

/-- The predeclared `nil` passes the checks, and so does a table whose variable takes that name. -/
theorem nil_passes :
    "nil" ∈ universeNames ∧ nameProblems "nil" = [] ∧
    ((TableData.ofTexts "nil" keyColumn (.text "models") []).context >>= warnings) = .ok [] ∧
    Naming.variableName "nil" = "nil" :=
  ⟨by decide, by decide +kernel, silent_iff_usable.mpr (usable_overlooked "nil" (by simp)),
    by decide⟩

end Tablewright.Target
