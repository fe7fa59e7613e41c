import Tablewright.Proofs.Naming

/-! Which plain names collide: exactly those that differ in how they spell the `id` segment. -/

namespace Tablewright.Naming

/-- A small letter, then small letters and digits, all of ASCII. -/
def IsWord (word : List Char) : Prop :=
  ∃ first rest, word = first :: rest ∧ first.isLower ∧ ∀ c ∈ rest, c.isLower ∨ c.isDigit

/-- A word is told by looking at each of its characters. -/
theorem isWord_cons {first : Char} {rest : List Char} :
    IsWord (first :: rest) ↔
      (first.isLower && rest.all fun c => c.isLower || c.isDigit) = true := by
  -- A word has a first letter, and what stands behind it is looked at one by one.
  simp only [Bool.and_eq_true, List.all_eq_true, Bool.or_eq_true]
  constructor
  · rintro ⟨_, _, parts, letter, small⟩
    cases parts
    exact ⟨letter, small⟩
  · rintro ⟨letter, small⟩
    exact ⟨first, rest, rfl, letter, small⟩

/-- A name of one word at least, with single separators between its words. -/
structure PlainName where
  words : List (List Char)
  filled : words ≠ []
  spelled : ∀ word ∈ words, IsWord word

/-- The name as a text. -/
def PlainName.text (name : PlainName) : String := "_".intercalate (name.words.map String.ofList)

/-- Words where each `id` is spelled as two words of one letter. -/
def spread (words : List (List Char)) : List (List Char) :=
  words.flatMap fun word => if word = idSegment then [['i'], ['d']] else [word]

/-- A small letter is one of ASCII. -/
theorem ascii_of_isLower {c : Char} (small : c.isLower) : c.toNat < 128 :=
  Nat.lt_of_le_of_lt (Text.isLower_iff.mp small).2 (by decide)

/-- The title-case form of a small letter is its capital. -/
theorem titled_of_isLower {c : Char} (small : c.isLower) :
    (Text.titled c).isUpper ∧ (Text.titled c).toLower = c :=
  Text.forall_ascii
    (fun c => c.isLower → (Text.titled c).isUpper ∧ (Text.titled c).toLower = c)
    (by decide +kernel) (ascii_of_isLower small) small

/-- Small letters are told apart by their capitals. -/
theorem titled_inj {c d : Char} (small : c.isLower) (small' : d.isLower)
    (same : Text.titled c = Text.titled d) : c = d := by
  rw [← (titled_of_isLower small).2, ← (titled_of_isLower small').2, same]

/-- Neither a small letter nor a digit is a capital or a separator. -/
theorem not_isUpper_of_small {c : Char} (small : c.isLower ∨ c.isDigit) :
    ¬ c.isUpper ∧ c ≠ separator := by
  -- Both kinds are of ASCII, whose code points are few enough to be gone through.
  have ascii : c.toNat < 128 := by
    rcases small with letter | digit
    · exact ascii_of_isLower letter
    · -- The digits end at code point 57.
      simp only [Char.isDigit, Bool.and_eq_true, decide_eq_true_eq] at digit
      have upper : c.toNat ≤ 57 := digit.2
      omega
  exact Text.forall_ascii (fun c => c.isLower ∨ c.isDigit → ¬ c.isUpper ∧ c ≠ separator)
    (by decide +kernel) ascii small

section

variable {word : List Char} (spelled : IsWord word)
include spelled

/-- A word is not empty. -/
theorem IsWord.ne_nil : word ≠ [] := by
  obtain ⟨first, rest, rfl, -, -⟩ := spelled
  simp

/-- A word holds small letters and digits only. -/
theorem IsWord.small {c : Char} (inside : c ∈ word) : c.isLower ∨ c.isDigit := by
  -- The first one is a letter, and all others are letters or digits.
  obtain ⟨first, rest, rfl, front, behind⟩ := spelled
  rcases List.mem_cons.mp inside with rfl | later
  · exact .inl front
  · exact behind c later

/-- A word holds no separator. -/
theorem IsWord.whole : separator ∉ word :=
  fun inside => (not_isUpper_of_small (spelled.small inside)).2 rfl

end

/-- Words with `id` spelled out are words still. -/
theorem isWord_of_mem_spread {words : List (List Char)} (spelled : ∀ word ∈ words, IsWord word)
    {word : List Char} (member : word ∈ spread words) : IsWord word := by
  -- A word is spread into itself, or is the one segment that has two letters.
  obtain ⟨whole, among, part⟩ := List.mem_flatMap.mp member
  split at part
  · -- Both letters of the segment are words of their own.
    simp only [List.mem_cons, List.not_mem_nil, or_false] at part
    rcases part with rfl | rfl
    · exact ⟨'i', [], rfl, by decide, by simp⟩
    · exact ⟨'d', [], rfl, by decide, by simp⟩
  · -- Any other word stands for itself.
    obtain rfl := List.mem_singleton.mp part
    exact spelled word among

/-- The segments of joined words are the words. -/
theorem segments_intercalate {words : List (List Char)} (spelled : ∀ word ∈ words, IsWord word) :
    segments ([separator].intercalate words) = words := by
  -- A word has no separator of its own, so the first one found is the one behind it.
  induction words with
  | nil => rfl
  | cons word rest ih =>
    have own := spelled word (by simp)
    have later := ih fun other member => spelled other (by simp [member])
    have single := segments_of_not_mem own.ne_nil own.whole
    cases rest with
    -- The last word has no separator behind it.
    | nil => simpa using single
    | cons next others =>
      rw [List.intercalate_cons_cons, List.append_assoc, List.singleton_append,
        segments_append_separator, single, later]
      rfl

/-- The segments of a plain name are its words. -/
theorem PlainName.segments_text (name : PlainName) : segments name.text.toList = name.words := by
  -- The text puts separators between the words, and cutting it takes them out again.
  have spelledOut : name.text.toList = [separator].intercalate name.words := by
    rw [PlainName.text, String.toList_intercalate, List.map_map]
    simp [Function.comp_def, separator]
  rw [spelledOut, segments_intercalate name.spelled]

/-- Derived names do not tell an `id` segment from its letters: all words show as capitalized. -/
theorem flatMap_inner (words : List (List Char)) :
    words.flatMap inner = (spread words).flatMap capitalized := by
  -- The induction is on the words, of which only `id` differs from its inner form.
  induction words with
  | nil => rfl
  | cons word rest ih =>
    -- Two letters in a row, each capitalized, are `ID`.
    have first : inner word =
        (if word = idSegment then [['i'], ['d']] else [word]).flatMap capitalized := by
      unfold inner
      split
      · decide
      · simp
    rw [List.flatMap_cons, ih, first, spread, spread, List.flatMap_cons, List.flatMap_append]

/-- Capitalized words in a row are empty, or begin with a capital. -/
theorem isUpper_head_capitalized {words : List (List Char)}
    (spelled : ∀ word ∈ words, IsWord word) :
    ∀ c ∈ (words.flatMap capitalized).head?, c.isUpper := by
  -- The first word begins with a small letter, whose title-case form is a capital.
  intro c first
  cases words with
  | nil => cases first
  | cons word rest =>
    obtain ⟨letter, others, rfl, small, -⟩ := spelled word (by simp)
    rw [List.flatMap_cons, capitalized, List.cons_append, List.head?_cons, Option.mem_some_iff]
      at first
    rw [← first]
    exact (titled_of_isLower small).1

/-- A front without capitals ends where the first capital stands. -/
theorem takeWhile_append {front behind : List Char} (small : ∀ c ∈ front, ¬ c.isUpper)
    (capital : ∀ c ∈ behind.head?, c.isUpper) :
    (front ++ behind).takeWhile (fun c => !c.isUpper) = front := by
  -- The front is passed as a whole, and the capital behind it is not.
  rw [List.takeWhile_append_of_pos (by simpa using small)]
  have ended : behind.takeWhile (fun c => !c.isUpper) = [] := by
    cases behind with
    | nil => rfl
    | cons c rest =>
      have upper := capital c rfl
      simp [upper]
  rw [ended, List.append_nil]

/-- Two fronts without capitals are the same when the same stands from the next capital on. -/
theorem append_inj {front front' behind behind' : List Char} (small : ∀ c ∈ front, ¬ c.isUpper)
    (small' : ∀ c ∈ front', ¬ c.isUpper) (capital : ∀ c ∈ behind.head?, c.isUpper)
    (capital' : ∀ c ∈ behind'.head?, c.isUpper) (same : front ++ behind = front' ++ behind') :
    front = front' ∧ behind = behind' := by
  -- Each front is what can be taken of its row before a capital, and the rows are the same.
  have fronts : front = front' := by
    rw [← takeWhile_append small capital, same, takeWhile_append small' capital']
  subst fronts
  exact ⟨rfl, List.append_cancel_left same⟩

/-- Capitalized words in a row can be read back: each capital begins the next word. -/
theorem capitalized_inj {words others : List (List Char)} (spelled : ∀ word ∈ words, IsWord word)
    (spelled' : ∀ word ∈ others, IsWord word)
    (same : words.flatMap capitalized = others.flatMap capitalized) : words = others := by
  -- The induction is on the first row; each step reads one word back from both rows.
  induction words generalizing others with
  | nil =>
    cases others with
    | nil => rfl
    | cons word rest =>
      -- The second row would begin with a capital, where the first one has ended.
      obtain ⟨first, behind, rfl, -, -⟩ := spelled' word (by simp)
      cases same
  | cons word rest ih =>
    obtain ⟨first, behind, rfl, letter, small⟩ := spelled word (by simp)
    have later : ∀ word ∈ rest, IsWord word := fun other member => spelled other (by simp [member])
    cases others with
    -- The first row would begin with a capital, where the second one has ended.
    | nil => cases same
    | cons word' rest' =>
      obtain ⟨first', behind', rfl, letter', small'⟩ := spelled' word' (by simp)
      have later' : ∀ word ∈ rest', IsWord word :=
        fun other member => spelled' other (by simp [member])
      simp only [List.flatMap_cons, capitalized, List.cons_append, List.cons.injEq] at same
      obtain ⟨capitals, rows⟩ := same
      -- Behind equal capitals, both words go on up to the next capital.
      obtain ⟨fronts, rests⟩ := append_inj
        (fun c inside => (not_isUpper_of_small (small c inside)).1)
        (fun c inside => (not_isUpper_of_small (small' c inside)).1)
        (isUpper_head_capitalized later) (isUpper_head_capitalized later') rows
      rw [titled_inj letter letter' capitals, fronts, ih later later' rests]

/-- The type name of a plain name is its words with `id` spelled out, each of them capitalized. -/
theorem PlainName.typeName_text (name : PlainName) :
    typeName name.text = String.ofList ((spread name.words).flatMap capitalized) := by
  rw [typeName, typeChars, name.segments_text, flatMap_inner]

/-- The variable name of a plain name is its first word, then the others as in a type name. -/
theorem PlainName.variableName_text (name : PlainName) {first : List Char}
    {rest : List (List Char)} (parts : name.words = first :: rest) :
    variableName name.text = String.ofList (first ++ (spread rest).flatMap capitalized) := by
  rw [variableName, variableChars, name.segments_text, parts, ← flatMap_inner]

/-- Plain names give one type name exactly when they are the same with `id` spelled out, and one
variable name exactly when their first words are the same and their other words are the same with
`id` spelled out. -/
theorem derived_eq_iff_spread (name other : PlainName) :
    (typeName name.text = typeName other.text ↔ spread name.words = spread other.words) ∧
    (variableName name.text = variableName other.text ↔
      name.words.head? = other.words.head? ∧
        spread name.words.tail = spread other.words.tail) := by
  -- Type names are read back word by word, and variables behind their first word.
  refine ⟨?typeNames, ?variableNames⟩
  case typeNames =>
    rw [name.typeName_text, other.typeName_text, String.ofList_inj]
    constructor
    · -- A type name is the row of all its words, capitalized.
      exact capitalized_inj (fun _ => isWord_of_mem_spread name.spelled)
        (fun _ => isWord_of_mem_spread other.spelled)
    · intro same
      rw [same]
  case variableNames =>
    obtain ⟨first, rest, parts⟩ := List.exists_cons_of_ne_nil name.filled
    obtain ⟨first', rest', parts'⟩ := List.exists_cons_of_ne_nil other.filled
    have spelled := name.spelled
    have spelled' := other.spelled
    rw [parts, List.forall_mem_cons] at spelled
    rw [parts', List.forall_mem_cons] at spelled'
    rw [name.variableName_text parts, other.variableName_text parts',
      String.ofList_inj, parts, parts', List.head?_cons, List.head?_cons,
      List.tail_cons, List.tail_cons, Option.some.injEq]
    -- The first word ends where the first capital stands, so both halves can be read back.
    have rows : ∀ word ∈ spread rest, IsWord word := fun _ => isWord_of_mem_spread spelled.2
    have rows' : ∀ word ∈ spread rest', IsWord word := fun _ => isWord_of_mem_spread spelled'.2
    constructor
    · intro same
      obtain ⟨fronts, behind⟩ := append_inj
        (fun c inside => (not_isUpper_of_small (spelled.1.small inside)).1)
        (fun c inside => (not_isUpper_of_small (spelled'.1.small inside)).1)
        (isUpper_head_capitalized rows) (isUpper_head_capitalized rows') same
      exact ⟨fronts, capitalized_inj rows rows' behind⟩
    · rintro ⟨fronts, behind⟩
      rw [fronts, behind]

/-- The plain name of two words. -/
def PlainName.ofPair (first last : List Char) (spelled : IsWord first) (spelled' : IsWord last) :
    PlainName :=
  ⟨[first, last], List.cons_ne_nil _ _,
    List.forall_mem_cons.mpr ⟨spelled, List.forall_mem_singleton.mpr spelled'⟩⟩

/-- The plain name `user_id`. -/
def userId : PlainName :=
  .ofPair ['u', 's', 'e', 'r'] ['i', 'd'] (isWord_cons.mpr (by decide))
    (isWord_cons.mpr (by decide))

/-- The plain name `useri_d`, where the letters of `id` belong to two words. -/
def useriD : PlainName :=
  .ofPair ['u', 's', 'e', 'r', 'i'] ['d'] (isWord_cons.mpr (by decide))
    (isWord_cons.mpr (by decide))

/-- The plain name `user_i_d`, which spells `id` as two words. -/
def userSpread : PlainName :=
  ⟨['u', 's', 'e', 'r'] :: [['i'], ['d']], List.cons_ne_nil _ _,
    List.forall_mem_cons.mpr ⟨isWord_cons.mpr (by decide), List.forall_mem_cons.mpr
      ⟨isWord_cons.mpr (by decide), List.forall_mem_singleton.mpr (isWord_cons.mpr (by decide))⟩⟩⟩

/-- The names `user_id` and `user_i_d` collide, and `user_id` and `useri_d` do not. -/
theorem userId_collides :
    userId.text = "user_id" ∧ userSpread.text = "user_i_d" ∧ useriD.text = "useri_d" ∧
    typeName userId.text = typeName userSpread.text ∧
    variableName userId.text = variableName userSpread.text ∧
    typeName userId.text ≠ typeName useriD.text := by
  -- With `id` spelled out the first two names are one, and the third one has a word less.
  refine ⟨by decide, by decide, by decide, ?_, ?_, ?_⟩
  · exact (derived_eq_iff_spread userId userSpread).1.mpr (by decide)
  · exact (derived_eq_iff_spread userId userSpread).2.mpr (by decide)
  · exact fun same => absurd ((derived_eq_iff_spread userId useriD).1.mp same) (by decide)

end Tablewright.Naming
