import Tablewright.Text.Case
import Tablewright.Text.Identifier

/-! Identifiers within ASCII: letters, digits and underscores are all that one can hold. -/

namespace Tablewright.Text

/-- A letter, a digit or an underscore of ASCII. -/
def isPlain (c : Char) : Bool := c.isAlphanum || c = '_'

/-- A code point of ASCII that no identifier holds. -/
def isForeign (c : Char) : Bool := c.toNat < 128 && !isPlain c

/-- A text that holds of ASCII what identifiers hold lacks what is foreign to them. -/
theorem not_mem_of_isForeign {text : String}
    (plain : ∀ c ∈ text.toList, c.toNat < 128 → isPlain c) {c : Char} (foreign : isForeign c) :
    c ∉ text.toList := by
  -- What is foreign is of ASCII, where only plain code points may stand.
  intro inside
  obtain ⟨ascii, other⟩ := Bool.and_eq_true_iff.mp foreign
  have own := plain c inside (of_decide_eq_true ascii)
  rw [own] at other
  cases other

/-- A text of letters, digits and underscores alone lacks what is foreign to identifiers. -/
theorem not_mem_of_all {text : String} (all : text.toList.all isPlain) {c : Char}
    (foreign : isForeign c) : c ∉ text.toList :=
  not_mem_of_isForeign (fun d inside _ => List.all_eq_true.mp all d inside) foreign

/-- What holds of the code points below 128 holds of all of ASCII. -/
theorem forall_ascii (holds : Char → Prop) (each : ∀ code < 128, holds (Char.ofNat code))
    {c : Char} (ascii : c.toNat < 128) : holds c := by
  have own := each c.toNat ascii
  rwa [Char.ofNat_toNat] at own

/-- Within ASCII, title case makes nothing part of an identifier that was not a letter before. -/
theorem isPlain_of_continuesIdentifier {c : Char} (ascii : c.toNat < 128)
    (part : continuesIdentifier c ∨ continuesIdentifier (titled c)) : isPlain c := by
  -- The code points of ASCII are few enough to be gone through.
  have each := forall_ascii
    (fun c => continuesIdentifier c ∨ continuesIdentifier (titled c) → isPlain c)
    (by decide +kernel) ascii
  exact each part

/-- Within ASCII, identifiers begin with letters and underscores. -/
theorem beginsIdentifier_iff {c : Char} (ascii : c.toNat < 128) :
    beginsIdentifier c ↔ c.isAlpha ∨ c = '_' :=
  forall_ascii (fun c => beginsIdentifier c ↔ c.isAlpha ∨ c = '_') (by decide +kernel) ascii

/-- Within ASCII, identifiers go on with letters, digits and underscores. -/
theorem continuesIdentifier_iff {c : Char} (ascii : c.toNat < 128) :
    continuesIdentifier c ↔ c.isAlphanum ∨ c = '_' :=
  forall_ascii (fun c => continuesIdentifier c ↔ c.isAlphanum ∨ c = '_') (by decide +kernel) ascii

/-- A letter or an underscore of ASCII, then letters, digits and underscores. -/
def SpelledPlainly (name : String) : Prop :=
  ∃ first rest, name.toList = first :: rest ∧ (first.isAlpha ∨ first = '_') ∧
    ∀ c ∈ rest, c.isAlphanum ∨ c = '_'

/-- Within ASCII, the identifiers are the names that are spelled plainly. -/
theorem isIdentifier_iff_spelledPlainly {name : String} (ascii : ∀ c ∈ name.toList, c.toNat < 128) :
    isIdentifier name ↔ SpelledPlainly name := by
  unfold isIdentifier SpelledPlainly
  -- An empty name is neither.
  cases spelled : name.toList with
  | nil => simp [isIdentifierRun]
  | cons first rest =>
    rw [spelled, List.forall_mem_cons] at ascii
    -- The first code point and the later ones are judged by rules of their own.
    have begins := beginsIdentifier_iff ascii.1
    have continues : (∀ c ∈ rest, continuesIdentifier c) ↔ ∀ c ∈ rest, c.isAlphanum ∨ c = '_' :=
      forall₂_congr fun c member => continuesIdentifier_iff (ascii.2 c member)
    rw [isIdentifierRun, Bool.and_eq_true, List.all_eq_true, begins, continues]
    constructor
    · rintro ⟨front, behind⟩
      exact ⟨first, rest, rfl, front, behind⟩
    · -- The name has one first code point, so what is spelled is what was judged.
      rintro ⟨_, _, same, front, behind⟩
      cases same
      exact ⟨front, behind⟩

/-- Every code point of an identifier may continue one. -/
theorem continues_of_isIdentifier {name : String} (valid : isIdentifier name) {c : Char}
    (member : c ∈ name.toList) : continuesIdentifier c := by
  -- The first code point and the later ones are judged apart.
  unfold isIdentifier at valid
  cases spelled : name.toList with
  | nil =>
    rw [spelled] at member
    cases member
  | cons first rest =>
    rw [spelled, isIdentifierRun, Bool.and_eq_true] at valid
    rw [spelled] at member
    -- Whatever may begin an identifier may also continue one.
    rcases List.mem_cons.mp member with rfl | later
    · rw [continuesIdentifier, valid.1, Bool.true_or]
    · exact List.all_eq_true.mp valid.2 c later

/-- An identifier lacks what is foreign to identifiers. -/
theorem not_mem_of_isIdentifier {name : String} (valid : isIdentifier name) {c : Char}
    (foreign : isForeign c) : c ∉ name.toList :=
  not_mem_of_isForeign (fun _ inside ascii =>
    isPlain_of_continuesIdentifier ascii (.inl (continues_of_isIdentifier valid inside))) foreign

end Tablewright.Text
