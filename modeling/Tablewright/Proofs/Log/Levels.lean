import Tablewright.Proofs.Log.Setup

/-! Levels that count for loggers: the last one set, where the package is on the way up. -/

namespace Tablewright.Logging

/-- The level that was set, or 30 when it is zero or none was set. -/
def countingLevel : Option (Value × Bool) → Value
  | none => .int 30
  | some (level, _) => if isSet level then level else .int 30

/-- No logger but that of the package has a level. -/
theorem eq_of_isSet_levelAt {logging : Logging} {name : String}
    (set : isSet (logging.levelAt name)) : name = rootLogger := by
  -- All others are at zero, which does not count as set.
  by_contra other
  rw [levelAt, if_neg other] at set
  exact absurd set (by decide)

section

variable {logging : Logging} {way : List String}

/-- The level that is found on a way is that of the package. -/
theorem eq_of_find?_isSet {level : Value}
    (found : (way.map logging.levelAt).find? isSet = some level) :
    rootLogger ∈ way ∧ isSet logging.root.level ∧ level = logging.root.level := by
  -- No logger but that of the package has a level, so what is found is the level of that one.
  have set := List.find?_some found
  obtain ⟨name, member, rfl⟩ := List.mem_map.mp (List.mem_of_find?_eq_some found)
  obtain rfl := eq_of_isSet_levelAt set
  exact ⟨member, by simpa [levelAt] using set, by rw [levelAt, if_pos rfl]⟩

/-- On a way past the package no level is found. -/
theorem getD_find?_of_not_mem (past : rootLogger ∉ way) :
    ((way.map logging.levelAt).find? isSet).getD fallbackLevel = .int 30 := by
  -- Without the package on the way there is no level to be found.
  cases found : (way.map logging.levelAt).find? isSet with
  | none => rfl
  | some level => exact absurd (eq_of_find?_isSet found).1 past

/-- On a way to the package its level is found, unless that is zero. -/
theorem getD_find?_of_mem (there : rootLogger ∈ way) :
    ((way.map logging.levelAt).find? isSet).getD fallbackLevel =
      if isSet logging.root.level then logging.root.level else .int 30 := by
  -- The level of the package is found, or it is zero and passed over.
  cases found : (way.map logging.levelAt).find? isSet with
  -- Nothing on the way is set, and the package is on it.
  | none =>
    have unset := List.find?_eq_none.mp found _ (List.mem_map_of_mem there)
    rw [levelAt, if_pos rfl] at unset
    rw [if_neg unset]
    rfl
  -- Of the loggers on the way only the package can have a level.
  | some level =>
    obtain ⟨-, set, rfl⟩ := eq_of_find?_isSet found
    rw [if_pos set]
    rfl

end

/-- The level that counts under a setup is the one it was made with. -/
theorem countingLevel_eq (setting : Option (Value × Bool)) :
    (if isSet (setupOf setting).level then (setupOf setting).level else .int 30) =
      countingLevel setting := by
  cases setting <;> rfl

/-- The counts of dots on the way up from a name: its own, and those of loggers of dots alone that
were asked for. -/
def askedCounts (calls : List Call) (name : String) : Set Nat :=
  {dots | 0 < dots ∧ (dots = dotsBehind (loggerName name) ∨
    ∃ asked, .ask (.text asked) ∈ calls ∧ loggerName asked = dotted dots)}

/-- The logger of a name is that of the package, or the least count of dots on its way is odd. -/
def Connected (calls : List Call) (name : String) : Prop :=
  loggerName name = rootLogger ∨ OddLeast (askedCounts calls name)

/-- The counts on the way up from a logger are told by what was asked for. -/
theorem dotCounts_having (calls : List Call) (name : String) :
    dotCounts ((run calls).having (loggerName name)).loggers (dotsBehind (loggerName name)) =
      askedCounts calls name := by
  ext dots
  refine and_congr_right fun positive => ?_
  rw [mem_loggers_having, mem_loggers_run, or_iff_right (dotted_not_mem_packageLoggers positive),
    ← or_assoc]
  -- The logger itself, if it is one of dots alone, has its own count.
  refine or_congr_left (or_iff_left_of_imp fun same => ?_)
  rw [← same, dotsBehind_dotted]

/-- The package is on the way up from a logger exactly when the name is connected. -/
theorem mem_way_iff (calls : List Call) (name : String) :
    rootLogger ∈ loggerName name ::
        loggersAbove ((run calls).having (loggerName name)).loggers
          (loggerName name).toList.reverse ↔
      Connected calls name := by
  -- The package itself is known from the start, so asking for a name never loses it.
  have present : rootLogger ∈ ((run calls).having (loggerName name)).loggers := by
    rw [mem_loggers_having, mem_loggers_run]
    exact .inr (.inl (by decide))
  rw [List.mem_cons, eq_comm, Connected]
  -- The package is the logger itself, or the dots behind its name decide.
  rcases loggerName_cases name with root | ⟨inside, below⟩
  · exact iff_of_true (.inl root) (.inl root)
  · rw [mem_loggersAbove_iff present below, dotCounts_having]

/-- For a connected name the level counts that was set last, and for all others the fallback. -/
theorem effective_having (calls : List Call) (name : String) :
    (Connected calls name →
      ((run calls).having (loggerName name)).effective (loggerName name) =
        countingLevel (lastSetting? calls)) ∧
    (¬ Connected calls name →
      ((run calls).having (loggerName name)).effective (loggerName name) = .int 30) := by
  -- Connected names are those whose way leads to the package, and there its level counts or not.
  rw [← mem_way_iff]
  refine ⟨fun there => ?_, fun past => getD_find?_of_not_mem past⟩
  rw [effective, getD_find?_of_mem there, root_having, root_run, countingLevel_eq]

/-- One dot behind the name of the package leads to it, whatever was asked for. -/
theorem connected_of_single {calls : List Call} {name : String}
    (single : dotsBehind (loggerName name) = 1) : Connected calls name :=
  .inr ⟨1, ⟨⟨by decide, .inl single.symm⟩, fun _ member => member.1⟩, by decide⟩

/-- After any calls the package is set up as the last one with a level asked for, a call without a
level fails and changes nothing, and a logger has its name, stays the same and goes by that level,
or by 30 if the least count of dots on its way up is even. -/
theorem loggers_follow_last_setting (calls : List Call) :
    (run calls).root = setupOf (lastSetting? calls) ∧
    (∀ level rich cause, levelOf level = .error cause →
      (setUp level (Flag.value rich)).run.run (run calls) = (.error cause, run calls)) ∧
    (∀ level rich value, levelOf level = .ok value →
      ((setUp level (Flag.value rich)).run.run (run calls)).1 = .ok ()) ∧
    ∀ name : String, ∃ logging,
      (logger (.text name)).run.run (run calls) = (.ok (loggerName name), logging) ∧
      (logger (.text (loggerName name))).run.run logging = (.ok (loggerName name), logging) ∧
      (loggerName name = "boilergen" ∨ ∃ inside, loggerName name = "boilergen." ++ inside) ∧
      logging.root = (run calls).root ∧
      (Connected calls name →
        logging.effective (loggerName name) = countingLevel (lastSetting? calls)) ∧
      (¬ Connected calls name → logging.effective (loggerName name) = .int 30) := by
  -- Of the four parts, the first three are about calls, and the last one about a logger got then.
  refine ⟨root_run calls, fun level rich cause invalid => run_setUp_error _ invalid _,
    fun level rich value valid => by rw [run_setUp_ok _ valid], fun name => ?_⟩
  -- Asking for a logger by its own name gives the same one, and adds nothing.
  refine ⟨_, run_logger_text _ name, ?_, ?_, root_having _ _, effective_having calls name⟩
  · rw [run_logger_text, loggerName_loggerName, having_having]
  · -- A name behind the package is the package, a dot, and what is inside.
    refine (loggerName_cases name).imp id fun ⟨inside, below⟩ => ⟨String.ofList inside, ?_⟩
    rw [← String.toList_inj, below]
    simp [rootLogger]

/-- Two dots on the way up lead past the package unless a logger of a single dot is on it. -/
theorem not_connected_of_two {calls : List Call} {name : String}
    (inside : loggerName name ≠ rootLogger) (two : 2 ∈ askedCounts calls name)
    (single : dotsBehind (loggerName name) ≠ 1)
    (unasked : ∀ asked, .ask (.text asked) ∈ calls → loggerName asked ≠ dotted 1) :
    ¬ Connected calls name := by
  -- Two is the least count there is, as a single dot stands neither in the name nor on the way.
  refine not_or.mpr ⟨inside, not_oddLeast_of_two (fun _ member => member.1) two ?_⟩
  rintro ⟨-, own | ⟨asked, member, same⟩⟩
  · exact single own.symm
  · exact unasked asked member same

/-- Reports in colour. -/
def coloured : Flag := ⟨.bool true, true, rfl⟩

/-- No level goes by a name in small letters. -/
theorem levelOf_debug : levelOf (.text "debug") = .error (.unknownLevel "debug") := by
  -- Names of levels are looked up as they are spelled.
  have unknown : lookup? "debug" levelNames = none := by decide
  rw [levelOf, unknown]
  rfl

/-- The level of all reports goes by its name in capitals. -/
theorem levelOf_DEBUG : levelOf (.text "DEBUG") = .ok (.int 10) := by
  -- Names of levels are looked up as they are spelled.
  have known : lookup? "DEBUG" levelNames = some 10 := by decide
  rw [levelOf, known]
  rfl

/-- Calls with a level, with none, and for a logger of dots alone. -/
def dottedCalls : List Call :=
  [.setUp (.text "DEBUG") coloured, .setUp (.text "debug") coloured, .ask (.text ".")]

/-- The second call has no level, so the first one counts. -/
theorem lastSetting?_dottedCalls : lastSetting? dottedCalls = some (.int 10, true) := by
  simp [lastSetting?, dottedCalls, List.filterMap_cons, Call.setting?, levelOf_debug,
    levelOf_DEBUG, Except.toOption, coloured]

/-- A logger of two dots that was asked for stands above one of three, and leads past the
package. -/
theorem not_connected_dottedCalls : ¬ Connected dottedCalls "..a" := by
  -- The only logger of dots that was asked for has two of them.
  refine not_connected_of_two (by decide) ⟨by decide, .inr ⟨".", by simp [dottedCalls], by decide⟩⟩
    (by decide) fun asked member => ?_
  simp only [dottedCalls, List.mem_cons, reduceCtorEq, Call.ask.injEq, Value.text.injEq,
    List.not_mem_nil, or_false, false_or] at member
  subst member
  decide

/-- The first call sets a level, which counts for `x` and does not reach `..a`. -/
theorem loggers_follow_last_setting_dotted :
    (run dottedCalls).root = ⟨.int 10, false, [.rich]⟩ ∧
    levelOf (.text "debug") = .error (.unknownLevel "debug") ∧
    (setUp (.text "debug") coloured.value).run.run (run dottedCalls) =
      (.error (.unknownLevel "debug"), run dottedCalls) ∧
    levelOf (.text "DEBUG") = .ok (.int 10) ∧
    ((setUp (.text "DEBUG") coloured.value).run.run (run dottedCalls)).1 = .ok () ∧
    Connected dottedCalls "x" ∧
    (∃ logging, (logger (.text "x")).run.run (run dottedCalls) = (.ok (loggerName "x"), logging) ∧
      logging.effective (loggerName "x") = .int 10) ∧
    ¬ Connected dottedCalls "..a" ∧
    ∃ logging,
      (logger (.text "..a")).run.run (run dottedCalls) = (.ok (loggerName "..a"), logging) ∧
      logging.effective (loggerName "..a") = .int 30 := by
  -- The general statement is read at both names, the one connected and the other not.
  have near : Connected dottedCalls "x" := connected_of_single (by decide)
  have far := not_connected_dottedCalls
  obtain ⟨root, refused, taken, each⟩ := loggers_follow_last_setting dottedCalls
  obtain ⟨logging, got, -, -, -, follows, -⟩ := each "x"
  obtain ⟨logging', got', -, -, -, -, misses⟩ := each "..a"
  rw [lastSetting?_dottedCalls] at root follows
  exact ⟨root, levelOf_debug, refused _ _ _ levelOf_debug, levelOf_DEBUG,
    taken _ coloured _ levelOf_DEBUG, near, ⟨logging, got, follows near⟩, far,
    ⟨logging', got', misses far⟩⟩

/-- Behind two dots a logger does not go by the level that was set. -/
theorem level_missed_behind_dots :
    lastSetting? [.setUp (.text "DEBUG") coloured] = some (.int 10, true) ∧
    ∃ logging,
      (logger (.text ".a")).run.run (run [.setUp (.text "DEBUG") coloured]) =
        (.ok "boilergen..a", logging) ∧
      logging.root.level = .int 10 ∧ logging.effective "boilergen..a" = .int 30 := by
  -- The name has two dots, and nothing but that name was asked for.
  have named : loggerName ".a" = "boilergen..a" := by decide
  have last : lastSetting? [.setUp (.text "DEBUG") coloured] = some (.int 10, true) := by
    simp [lastSetting?, Call.setting?, levelOf_DEBUG, Except.toOption, coloured]
  have past : ¬ Connected [.setUp (.text "DEBUG") coloured] ".a" :=
    not_connected_of_two (by decide) ⟨by decide, .inl (by decide)⟩ (by decide) (by simp)
  rw [← named]
  refine ⟨last, _, run_logger_text _ ".a", ?_, (effective_having _ ".a").2 past⟩
  rw [root_having, root_run, last]
  rfl

end Tablewright.Logging
