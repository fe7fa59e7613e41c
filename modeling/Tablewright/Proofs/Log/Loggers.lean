import Mathlib.Algebra.Ring.Parity
import Mathlib.Data.List.Induction
import Mathlib.Order.Bounds.Basic
import Tablewright.Log.Loggers

/-! What stands above a logger: the one of the package, unless dots behind its name lead past it. -/

namespace Tablewright

/-- The name of the package with so many dots behind it and nothing else. -/
def dotted (dots : Nat) : String := rootLogger ++ String.ofList (List.replicate dots '.')

/-- How many dots stand right behind the name of the package in a longer name. -/
def dotsBehind (name : String) : Nat :=
  ((name.toList.drop rootLogger.toList.length).takeWhile (· == '.')).length

/-- The counts of dots on the way up from so many: that one, and those of loggers of dots alone. -/
def dotCounts (loggers : List String) (dots : Nat) : Set Nat :=
  {count | 0 < count ∧ (count = dots ∨ dotted count ∈ loggers)}

/-- There is a least number, and it is odd. -/
def OddLeast (numbers : Set Nat) : Prop := ∃ least, IsLeast numbers least ∧ Odd least

section

variable {loggers : List String} {dots : Nat}

/-- No count is below one. -/
theorem oddLeast_one (loggers : List String) : OddLeast (dotCounts loggers 1) :=
  ⟨1, ⟨⟨by decide, .inl rfl⟩, fun _ member => member.1⟩, by decide⟩

/-- Two is the least of positive numbers when one is none of them. -/
theorem not_oddLeast_of_two {numbers : Set Nat} (positive : ∀ count ∈ numbers, 0 < count)
    (two : 2 ∈ numbers) (one : 1 ∉ numbers) : ¬ OddLeast numbers := by
  -- The least number is positive, no more than two, and not one.
  rintro ⟨least, ⟨member, lowest⟩, odd⟩
  have bound : least ≤ 2 := lowest two
  have above := positive least member
  have more : least ≠ 1 := fun same => one (same ▸ member)
  obtain rfl : least = 2 := by omega
  exact absurd odd (by decide)

/-- Two is the least count when no logger has a single dot. -/
theorem not_oddLeast_two (absent : dotted 1 ∉ loggers) : ¬ OddLeast (dotCounts loggers 2) :=
  not_oddLeast_of_two (fun _ member => member.1) ⟨by decide, .inl rfl⟩
    fun one => absent (one.2.resolve_left (by decide))

/-- The least count is one on the way up below which no logger of dots alone stands. -/
theorem isLeast_dotCounts_iff (positive : 0 < dots) {least : Nat} :
    IsLeast (dotCounts loggers dots) least ↔
      0 < least ∧ least ≤ dots ∧ (least = dots ∨ dotted least ∈ loggers) ∧
        ∀ count, 0 < count → count < least → dotted count ∉ loggers := by
  -- A count is that of the name itself or of a logger on the way up.
  constructor
  · -- A logger of fewer dots would be counted as well, against the least count.
    rintro ⟨⟨above, own⟩, lowest⟩
    refine ⟨above, lowest ⟨positive, .inl rfl⟩, own, fun count more fewer known => ?_⟩
    exact absurd (lowest ⟨more, .inr known⟩) (Nat.not_le.mpr fewer)
  · rintro ⟨above, bound, own, free⟩
    refine ⟨⟨above, own⟩, ?_⟩
    rintro count ⟨more, rfl | known⟩
    · exact bound
    · -- No counted logger has fewer dots than the least one.
      exact Nat.not_lt.mp fun fewer => free count more fewer known

/-- One dot more counts for nothing when there is a logger without it. -/
theorem oddLeast_succ_iff (there : dotted (dots + 1) ∈ loggers) :
    OddLeast (dotCounts loggers (dots + 2)) ↔ OddLeast (dotCounts loggers (dots + 1)) := by
  -- The logger keeps the least count at or below its own.
  refine exists_congr fun least => and_congr_left' ?_
  rw [isLeast_dotCounts_iff (by omega), isLeast_dotCounts_iff (by omega)]
  constructor
  · -- The least count was not the new one, since the logger has fewer dots.
    rintro ⟨above, -, own, free⟩
    have bound : least ≤ dots + 1 :=
      Nat.not_lt.mp fun more => free (dots + 1) (by omega) more there
    exact ⟨above, bound, .inr (own.resolve_left (by omega)), free⟩
  · -- The least count is that of a logger in both cases.
    rintro ⟨above, bound, own, free⟩
    have known : dotted least ∈ loggers := own.elim (fun same => same ▸ there) id
    exact ⟨above, by omega, .inr known, free⟩

/-- Two dots more change nothing about the least count being odd when no logger is between. -/
theorem oddLeast_add_two_iff (positive : 0 < dots) (absent : dotted (dots + 1) ∉ loggers) :
    OddLeast (dotCounts loggers (dots + 2)) ↔ OddLeast (dotCounts loggers dots) := by
  -- The least count belongs to the new logger or to one that both ways pass.
  simp only [OddLeast, isLeast_dotCounts_iff positive, isLeast_dotCounts_iff (Nat.succ_pos _)]
  constructor
  · rintro ⟨least, ⟨above, bound, own, free⟩, odd⟩
    by_cases new : least = dots + 2
    · -- The least count is the new one, so no logger has fewer dots.
      subst new
      exact ⟨dots, ⟨positive, Nat.le_refl _, .inl rfl,
        fun count more fewer => free count more (by omega)⟩, by simpa [Nat.odd_add] using odd⟩
    · -- A logger on the way up is the same on both ways.
      have known : dotted least ∈ loggers := own.resolve_left new
      have other : least ≠ dots + 1 := fun same => absent (same ▸ known)
      exact ⟨least, ⟨above, by omega, .inr known, free⟩, odd⟩
  · rintro ⟨least, ⟨above, bound, own, free⟩, odd⟩
    by_cases known : dotted least ∈ loggers
    · -- A logger with the least count stands on the longer way as well.
      exact ⟨least, ⟨above, by omega, .inr known, free⟩, odd⟩
    · -- No logger has as few dots as the name, nor one dot more.
      obtain rfl : least = dots := own.resolve_right known
      refine ⟨least + 2, ⟨by omega, Nat.le_refl _, .inl rfl, fun count more fewer there => ?_⟩,
        by simpa [Nat.odd_add] using odd⟩
      have first : count ≠ least := fun same => known (same ▸ there)
      have second : count ≠ least + 1 := fun same => absent (same ▸ there)
      exact free count more (by omega) there

end

section

variable {loggers : List String}

/-- Code points other than dots are passed by. -/
theorem loggersAbove_cons_of_ne {c : Char} (other : c ≠ '.') (before : List Char) :
    loggersAbove loggers (c :: before) = loggersAbove loggers before := by
  cases before <;> simp [loggersAbove, other]

/-- At a dot stands a logger, or the search goes on in front of the next code point. -/
theorem loggersAbove_dot {before : List Char} (filled : before ≠ []) :
    loggersAbove loggers ('.' :: before) =
      if String.ofList before.reverse ∈ loggers then
        String.ofList before.reverse :: loggersAbove loggers before
      else loggersAbove loggers before.tail := by
  -- There is something in front of the dot, so the dot is looked at.
  cases before with
  | nil => exact absurd rfl filled
  | cons d earlier => rw [loggersAbove, if_pos rfl, List.tail_cons]

/-- Nothing stands above a name without dots. -/
theorem loggersAbove_eq_nil {before : List Char} (free : '.' ∉ before) :
    loggersAbove loggers before = [] := by
  -- The induction goes back through the name, and no code point of it ends a part.
  induction before with
  | nil => rfl
  | cons c before ih =>
    rw [List.mem_cons, not_or] at free
    rw [loggersAbove_cons_of_ne (Ne.symm free.1), ih free.2]

/-- What follows a name does not change whether it stands above, if it does not follow by a dot. -/
theorem mem_loggersAbove_append {name : String} {front back : List Char}
    (apart : front.getLast? ≠ some '.') (long : name.toList.length ≤ back.length) :
    name ∈ loggersAbove loggers (front ++ back) ↔ name ∈ loggersAbove loggers back := by
  -- A dot takes the code point before it along, so the induction goes by two code points.
  induction front using List.twoStepInduction with
  | nil => rfl
  | singleton c => rw [List.singleton_append, loggersAbove_cons_of_ne (by simpa using apart)]
  | cons_cons c d earlier ihTwo ihOne =>
    have apartOne : (d :: earlier).getLast? ≠ some '.' := by simpa using apart
    by_cases dot : c = '.'
    · subst dot
      rw [List.cons_append, loggersAbove_dot (by simp)]
      split
      · -- A logger found on the way has a longer name.
        have longer : name ≠ String.ofList ((d :: earlier) ++ back).reverse := by
          intro same
          rw [same, String.toList_ofList, List.length_reverse, List.length_append,
            List.length_cons] at long
          omega
        rw [List.mem_cons, or_iff_right longer, ihOne d apartOne]
      · -- No logger goes by the name that is left, so the code point behind the dot is passed too.
        refine ihTwo ?_
        cases earlier with
        | nil => simp
        | cons e others => simpa using apartOne
    · -- Any other code point is passed alone.
      rw [List.cons_append, loggersAbove_cons_of_ne dot, ihOne d apartOne]

/-- The name of the package and dots behind it, spelled backwards. -/
theorem ofList_reverse_dots (dots : Nat) :
    String.ofList (List.replicate dots '.' ++ rootLogger.toList.reverse).reverse = dotted dots := by
  rw [dotted, List.reverse_append, List.reverse_reverse, List.reverse_replicate,
    String.ofList_append, String.ofList_toList]

/-- With dots behind it, the name of the package is another one. -/
theorem dotted_succ_ne (dots : Nat) : rootLogger ≠ dotted (dots + 1) := by
  -- The two names differ in length.
  intro same
  have long := congrArg String.length same
  rw [dotted, String.length_append, String.length_ofList, List.length_replicate] at long
  omega

/-- From behind dots the way up leads to the package when the least count on it is odd. -/
theorem mem_loggersAbove_dots (present : rootLogger ∈ loggers) {dots : Nat} (positive : 0 < dots) :
    rootLogger ∈ loggersAbove loggers (List.replicate dots '.' ++ rootLogger.toList.reverse) ↔
      OddLeast (dotCounts loggers dots) := by
  -- The name of the package has no dots, so those in front of it are all there are.
  have plain : rootLogger.toList.reverse ≠ [] ∧ '.' ∉ rootLogger.toList.reverse := by decide
  -- A dot leads to one dot less where a logger stands, and to two less elsewhere.
  induction dots using Nat.strong_induction_on with
  | _ dots ih =>
    match dots with
    | 1 =>
      -- Right in front of a single dot the name of the package ends.
      have own := ofList_reverse_dots 0
      rw [List.replicate_zero, List.nil_append] at own
      have root : dotted 0 = rootLogger := by simp [dotted]
      rw [List.replicate_one, List.singleton_append, loggersAbove_dot plain.1, own, root,
        if_pos present]
      exact iff_of_true (List.mem_cons_self ..) (oddLeast_one loggers)
    | fewer + 2 =>
      have filled : List.replicate (fewer + 1) '.' ++ rootLogger.toList.reverse ≠ [] := by simp
      rw [List.replicate_succ, List.cons_append, loggersAbove_dot filled, ofList_reverse_dots]
      -- Whether a logger stands one dot lower decides which of the two laws of counts applies.
      by_cases there : dotted (fewer + 1) ∈ loggers
      · have passed := ih (fewer + 1) (by omega) (by omega)
        rw [if_pos there, List.mem_cons, or_iff_right (dotted_succ_ne fewer),
          oddLeast_succ_iff there]
        exact passed
      · rw [if_neg there, List.replicate_succ, List.cons_append, List.tail_cons]
        -- The search passes over one dot, which may have been the last one.
        cases fewer with
        | zero =>
          rw [List.replicate_zero, List.nil_append, loggersAbove_eq_nil plain.2]
          exact iff_of_false List.not_mem_nil (not_oddLeast_two there)
        | succ fewer =>
          have passed := ih (fewer + 1) (by omega) (by omega)
          rw [oddLeast_add_two_iff (Nat.succ_pos fewer) there]
          exact passed

/-- A name inside of the package goes on with dots, and then with something else. -/
theorem exists_toList_eq {name : String} {inside : List Char}
    (below : name.toList = rootLogger.toList ++ '.' :: inside) :
    ∃ rest, 0 < dotsBehind name ∧ rest.head? ≠ some '.' ∧
      name.toList = rootLogger.toList ++ (List.replicate (dotsBehind name) '.' ++ rest) := by
  -- The dots behind the package are cut off, and the rest begins with none.
  have dropped : name.toList.drop rootLogger.toList.length = '.' :: inside := by
    rw [below, List.drop_left]
  refine ⟨('.' :: inside).dropWhile (· == '.'), ?_, ?_, ?_⟩
  · -- The dot behind the package is the first of them.
    rw [dotsBehind, dropped, List.takeWhile_cons_of_pos (by decide), List.length_cons]
    exact Nat.succ_pos _
  · -- What is left begins with something else, since all dots have been dropped.
    intro first
    have other := List.head?_dropWhile_not (· == '.') ('.' :: inside)
    rw [first] at other
    exact absurd other (by decide)
  · -- The dots and the rest make up the name again.
    have dots : ('.' :: inside).takeWhile (· == '.') = List.replicate (dotsBehind name) '.' := by
      rw [List.eq_replicate_iff, dotsBehind, dropped]
      exact ⟨rfl, fun c member => by simpa using List.all_eq_true.mp List.all_takeWhile c member⟩
    rw [← dots, List.takeWhile_append_dropWhile, below]

/-- The package stands above a logger inside of it when the least count of dots on the way up from
the logger is odd. -/
theorem mem_loggersAbove_iff (present : rootLogger ∈ loggers) {name : String} {inside : List Char}
    (below : name.toList = rootLogger.toList ++ '.' :: inside) :
    rootLogger ∈ loggersAbove loggers name.toList.reverse ↔
      OddLeast (dotCounts loggers (dotsBehind name)) := by
  obtain ⟨rest, positive, apart, spelled⟩ := exists_toList_eq below
  -- What stands behind the dots is passed by, so they alone decide.
  have backwards : name.toList.reverse =
      rest.reverse ++ (List.replicate (dotsBehind name) '.' ++ rootLogger.toList.reverse) := by
    rw [spelled, List.reverse_append, List.reverse_append, List.reverse_replicate,
      List.append_assoc]
  -- Read from behind, what is inside comes first, then the dots, then the package.
  rw [backwards, mem_loggersAbove_append (by rwa [List.getLast?_reverse]) (by simp),
    mem_loggersAbove_dots present positive]

end

/-- The name of a logger is that of the package, or goes on behind it with a dot. -/
theorem loggerName_cases (name : String) :
    loggerName name = rootLogger ∨
      ∃ inside, (loggerName name).toList = rootLogger.toList ++ '.' :: inside := by
  have spelled : (rootLogger ++ ".").toList = rootLogger.toList ++ ['.'] := by decide
  simp only [loggerName]
  -- A name that is inside already is kept, and any other is put inside whole.
  split
  · rename_i there
    refine there.imp id fun begins => ?_
    obtain ⟨inside, same⟩ := List.isPrefixOf_iff_prefix.mp begins
    exact ⟨inside, by rw [← same, spelled, List.append_assoc, List.singleton_append]⟩
  · -- What was given is inside, whatever it is.
    exact .inr ⟨name.toList, by
      rw [String.toList_append, spelled, List.append_assoc, List.singleton_append]⟩

/-- The name of a logger is the name that it goes by. -/
@[simp] theorem loggerName_loggerName (name : String) :
    loggerName (loggerName name) = loggerName name := by
  -- The name is that of the package, or has the package and a dot in front already.
  have spelled : (rootLogger ++ ".").toList = rootLogger.toList ++ ['.'] := by decide
  rw [loggerName, if_pos]
  refine (loggerName_cases name).imp id fun ⟨inside, same⟩ => ?_
  rw [List.isPrefixOf_iff_prefix, same, spelled]
  exact ⟨inside, by rw [List.append_assoc, List.singleton_append]⟩

/-- Dots behind the name of the package are counted. -/
theorem dotsBehind_dotted (dots : Nat) : dotsBehind (dotted dots) = dots := by
  -- Behind the package there are the dots and nothing else.
  rw [dotsBehind, dotted, String.toList_append, String.toList_ofList, List.drop_left,
    List.takeWhile_replicate]
  simp

/-- No logger is there from the start whose name ends with a dot. -/
theorem dotted_not_mem_packageLoggers {dots : Nat} (positive : 0 < dots) :
    dotted dots ∉ packageLoggers := by
  -- The places of the package are spelled with letters at the end.
  have ends : ∀ name ∈ packageLoggers, name.toList.getLast? ≠ some '.' := by decide
  intro listed
  refine ends _ listed ?_
  obtain ⟨fewer, rfl⟩ := Nat.exists_eq_succ_of_ne_zero (Nat.ne_of_gt positive)
  rw [dotted, String.toList_append, String.toList_ofList, List.replicate_succ', ← List.append_assoc,
    List.getLast?_concat]

end Tablewright
