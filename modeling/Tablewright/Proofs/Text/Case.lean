import Tablewright.Proofs.Text.Identifier

/-! Title case of any code point: a form in title case has itself as one, and is no small letter. -/

namespace Tablewright.Text

namespace CaseRun

/-- The image of the last code point of a run. -/
def lastImage (run : CaseRun) : Nat := run.image + (run.last - run.first)

/-- A code point is the image of one that a run holds. -/
def Gives (run : CaseRun) (image : Nat) : Prop :=
  ∃ far, far ≤ run.last - run.first ∧ far % run.step = 0 ∧ image = run.image + far

/-- The images of a run lie outside of another run, or between its code points. -/
def clearOf (run other : CaseRun) : Bool :=
  other.last.blt run.image || run.lastImage.blt other.first ||
    ((run.first == run.last || run.step == 2) && other.step == 2 &&
      (run.image + other.first) % 2 == 1)

/-- What is found for a code point is an image of one of the runs. -/
theorem exists_gives_of_find? {runs : List CaseRun} {code image : Nat}
    (found : find? runs code = some image) : ∃ run ∈ runs, run.Gives image := by
  -- The runs are in order, so the search ends at the first one that begins behind the code point.
  induction runs with
  | nil => cases found
  | cons run rest ih =>
    rw [find?] at found
    by_cases before : code < run.first
    · rw [if_pos before] at found
      cases found
    · by_cases held : code ≤ run.last ∧ (code - run.first) % run.step = 0
      · rw [if_neg before, if_pos held, Option.some_inj] at found
        exact ⟨run, List.mem_cons_self .., code - run.first, by omega, held.2, found.symm⟩
      · -- The code point is behind this run or between two of its steps.
        rw [if_neg before, if_neg held] at found
        obtain ⟨later, member, gives⟩ := ih found
        exact ⟨later, List.mem_cons_of_mem _ member, gives⟩

/-- Runs of which all others are clear hold no image of the others. -/
theorem find?_eq_none_of_clearOf {run : CaseRun} {runs : List CaseRun} {image : Nat}
    (gives : run.Gives image) (clear : ∀ other ∈ runs, run.clearOf other) :
    find? runs image = none := by
  -- A run is clear of another when the images lie apart, or alternate with its code points.
  obtain ⟨far, within, stepped, rfl⟩ := gives
  induction runs with
  | nil => rfl
  | cons other rest ih =>
    obtain ⟨first, later⟩ := List.forall_mem_cons.mp clear
    -- The image is out of the reach of the first run, or falls between two of its code points.
    have outside : ¬ (other.first ≤ run.image + far ∧ run.image + far ≤ other.last ∧
        (run.image + far - other.first) % other.step = 0) := by
      rintro ⟨above, below, hit⟩
      simp only [clearOf, lastImage, Nat.blt_eq, Bool.or_eq_true, Bool.and_eq_true, beq_iff_eq]
        at first
      rcases first with (left | right) | ⟨⟨single | two, two'⟩, odd⟩
      · omega
      · omega
      · rw [two'] at hit
        omega
      · rw [two] at stepped
        rw [two'] at hit
        omega
    rw [find?]
    by_cases before : run.image + far < other.first
    · rw [if_pos before]
    · rw [if_neg before, if_neg fun held => outside ⟨Nat.le_of_not_lt before, held⟩]
      exact ih later

end CaseRun

/-- No run of title-case forms holds a form that a run gives. -/
theorem titleRuns_clear : ∀ run ∈ titleRuns, ∀ other ∈ titleRuns, run.clearOf other := by
  -- Every pair of runs is compared by its ends and steps, never by the code points between.
  have all : titleRuns.all (fun run => titleRuns.all fun other => run.clearOf other) = true := by
    decide +kernel
  simpa only [List.all_eq_true] using all

/-- Title-case forms are code points, and those of ASCII stand at most where the capitals do. -/
theorem titleRuns_bounds : ∀ run ∈ titleRuns,
    (run.lastImage < 0xD800 ∨ 0xDFFF < run.image ∧ run.lastImage < 0x110000) ∧
      (run.lastImage ≤ 'Z'.toNat ∨ 'z'.toNat < run.image) := by
  decide +kernel

/-- A code point keeps its form, or gets one that a run gives. -/
theorem titled_eq_or_gives (c : Char) :
    titled c = c ∨ ∃ run ∈ titleRuns, run.Gives (titled c).toNat := by
  -- A code point that no run holds is left as it is.
  unfold titled
  cases found : CaseRun.find? titleRuns c.toNat with
  | none => exact .inl rfl
  | some image =>
    obtain ⟨run, member, gives⟩ := CaseRun.exists_gives_of_find? found
    -- The image is a code point, so it is the code of the character made of it.
    have valid : image.isValidChar := by
      obtain ⟨far, within, -, rfl⟩ := gives
      obtain ⟨bounds, -⟩ := titleRuns_bounds run member
      simp only [CaseRun.lastImage] at bounds
      unfold Nat.isValidChar
      omega
    have code : (Char.ofNat image).toNat = image := by
      rw [Char.ofNat, dif_pos valid]
      rfl
    refine .inr ⟨run, member, ?_⟩
    simpa only [code] using gives

/-- What is in title case already stays as it is. -/
@[simp] theorem titled_titled (c : Char) : titled (titled c) = titled c := by
  rcases titled_eq_or_gives c with same | ⟨run, member, gives⟩
  · rw [same, same]
  · -- The new form is an image, and no run holds one.
    have unheld := CaseRun.find?_eq_none_of_clearOf gives (titleRuns_clear run member)
    rw [titled, unheld]

/-- A new form is a code point up to the last capital of ASCII, or behind its small letters. -/
theorem titled_eq_or_bounds (c : Char) :
    titled c = c ∨ (titled c).toNat ≤ 'Z'.toNat ∨ 'z'.toNat < (titled c).toNat := by
  -- The bounds are those of all runs, and each new form is an image of one of them.
  rcases titled_eq_or_gives c with same | ⟨run, member, far, within, -, image⟩
  · exact .inl same
  · obtain ⟨-, bounds⟩ := titleRuns_bounds run member
    simp only [CaseRun.lastImage] at bounds
    rw [image]
    exact .inr (bounds.imp (fun low => by omega) fun high => by omega)

/-- The small letters of ASCII stand in one row. -/
theorem isLower_iff {c : Char} : c.isLower ↔ 'a'.toNat ≤ c.toNat ∧ c.toNat ≤ 'z'.toNat := by
  -- The comparison of letters is one of their code points.
  change (decide ('a'.val ≤ c.val) && decide (c.val ≤ 'z'.val)) = true ↔ _
  rw [Bool.and_eq_true, decide_eq_true_eq, decide_eq_true_eq]
  exact Iff.rfl

/-- In title case nothing is a small letter of ASCII. -/
theorem not_isLower_titled (c : Char) : ¬ (titled c).isLower := by
  -- A small letter would have to be left as it was, or be a new form, and both are ruled out.
  intro small
  obtain ⟨above, below⟩ := isLower_iff.mp small
  have letters : 'Z'.toNat < 'a'.toNat ∧ 'z'.toNat < 128 := by decide
  rcases titled_eq_or_bounds c with same | low | high
  · -- Every small letter gets a new form, so none of them is left as it was.
    rw [same] at small below
    exact forall_ascii (fun c => c.isLower → titled c ≠ c) (by decide +kernel) (by omega) small
      same
  · omega
  · omega

/-- Only the underscore has the underscore as its form in title case. -/
theorem titled_eq_underscore_iff {c : Char} : titled c = '_' ↔ c = '_' := by
  -- The title-case table gives no underscore.
  constructor
  · intro underscore
    rcases titled_eq_or_bounds c with same | bounds
    · rw [← same, underscore]
    · -- The underscore stands between the capitals and the small letters.
      rw [underscore] at bounds
      exact absurd bounds (by decide)
  · rintro rfl
    decide +kernel

end Tablewright.Text
