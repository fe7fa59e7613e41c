import Tablewright.Proofs.Fragment
import Tablewright.Proofs.Text.Count
import Tablewright.Proofs.Text.Split

/-! Lists for statements can be read back: cut at their separators they give each column in turn. -/

namespace Tablewright.Fragment

/-- Columns, one at least, with these names, of which none holds a comma. -/
structure NamedPlainly (columns : List Value) (names : List String) : Prop where
  named : List.Forall₂ IsNamed columns names
  filled : names ≠ []
  plain : ∀ name ∈ names, ',' ∉ name.toList

/-- Texts without a comma are read back from the list that they are joined to. -/
theorem split_listed {texts : List String} (filled : texts ≠ [])
    (plain : ∀ text ∈ texts, ',' ∉ text.toList) :
    Text.split ", " (", ".intercalate texts) = texts := by
  have spelled : ", ".toList = ',' :: [' '] := by decide
  exact Text.split_intercalate spelled filled plain

/-- Placeholders are read back one by one. -/
theorem split_placeholders {count : Nat} (positive : 0 < count) :
    Text.split ", " (", ".intercalate
      ((List.range' 1 count).map fun index => "$" ++ toString index)) =
        (List.range' 1 count).map fun index => "$" ++ toString index := by
  refine split_listed (by simpa using Nat.ne_of_gt positive) fun text listed => ?_
  -- A placeholder is a number behind its sign, and digits are no commas.
  obtain ⟨index, -, rfl⟩ := List.mem_map.mp listed
  exact Text.not_mem_append (by decide) (Text.not_mem_toString (by decide) index)

/-- A column under its tag holds no comma when neither its name nor the table's does. -/
theorem comma_not_mem_aliased {table column : String} (ofTable : ',' ∉ table.toList)
    (ofColumn : ',' ∉ column.toList) : ',' ∉ (aliased table column).toList := by
  -- What is between the names is ` AS ` and `_`, and neither holds a comma.
  rw [aliased, tagName_eq]
  exact Text.not_mem_append (Text.not_mem_append ofColumn (by decide))
    (Text.not_mem_append (Text.not_mem_append ofTable (by decide)) ofColumn)

/-- A column can be told from what it is under its tag in a table. -/
theorem aliased_inj {table name other : String} (same : aliased table name = aliased table other) :
    name = other := by
  -- Both names stand in front and at the end, so they are equally long.
  have long := congrArg String.length same
  simp only [aliased, tagName_eq, String.length_append] at long
  have front := congrArg String.toList same
  simp only [aliased, tagName_eq, String.toList_append, List.append_assoc] at front
  have equal : name.toList.length = other.toList.length := by
    rw [String.length_toList, String.length_toList]
    omega
  -- What stands in front of equally long texts can be cut off from the rest.
  exact String.toList_inj.mp (List.append_inj_left front equal)

section

variable {columns others : List Value} {names names' : List String}
  (given : NamedPlainly columns names) (given' : NamedPlainly others names')
include given

/-- The names of the columns are read back from their list. -/
theorem NamedPlainly.split_columnNames : Text.split ", " (", ".intercalate names) = names :=
  split_listed given.filled given.plain

/-- The columns under their tags are read back one by one. -/
theorem NamedPlainly.split_aliased {table : String} (ofTable : ',' ∉ table.toList) :
    Text.split ", " (", ".intercalate (names.map (aliased table))) =
      names.map (aliased table) := by
  -- The columns under their tags are cut where they were put together, as none holds a separator.
  refine split_listed (by simpa using given.filled) fun text listed => ?_
  obtain ⟨name, member, rfl⟩ := List.mem_map.mp listed
  exact comma_not_mem_aliased ofTable (given.plain name member)

include given'

/-- The names can be told from the column list. -/
theorem NamedPlainly.eq_of_columnNamesOf_eq
    (same : columnNamesOf (.list columns) = columnNamesOf (.list others)) : names = names' := by
  rw [columnNamesOf_named given.named, columnNamesOf_named given'.named, Except.ok.injEq] at same
  rw [← given.split_columnNames, same, given'.split_columnNames]

/-- The names can be told from the aliased list of a table. -/
theorem NamedPlainly.eq_of_aliasedColumnsOf_eq {table : String} (ofTable : ',' ∉ table.toList)
    (same : aliasedColumnsOf (.text table) (.list columns) =
      aliasedColumnsOf (.text table) (.list others)) : names = names' := by
  rw [aliasedColumnsOf_named table given.named, aliasedColumnsOf_named table given'.named,
    Except.ok.injEq] at same
  -- Cutting gives the same columns under their tags, and each tells its name.
  have tagged : names.map (aliased table) = names'.map (aliased table) := by
    rw [← given.split_aliased ofTable, same, given'.split_aliased ofTable]
  exact List.map_injective_iff.mpr (fun _ _ => aliased_inj) tagged

end

/-- Cut at their separators, the lists of columns give the columns in order, each at its own place,
so the names can be told from the lists. Placeholders go by the count alone, whatever is counted,
and of no columns all lists are empty. -/
theorem lists_read_back (table : String) :
    (∀ columns names, NamedPlainly columns names → ',' ∉ table.toList →
      ∃ row flags aliases,
        columnNamesOf (.list columns) = .ok row ∧ placeholdersOf (.list columns) = .ok flags ∧
        aliasedColumnsOf (.text table) (.list columns) = .ok aliases ∧
        columns.length = names.length ∧
        Text.split ", " row = names ∧
        Text.split ", " flags =
          (List.range' 1 names.length).map (fun index => "$" ++ toString index) ∧
        Text.split ", " aliases =
          names.map fun name => name ++ " AS " ++ table ++ "_" ++ name) ∧
    (∀ columns names others names', NamedPlainly columns names → NamedPlainly others names' →
      (columnNamesOf (.list columns) = columnNamesOf (.list others) → names = names') ∧
      (',' ∉ table.toList →
        aliasedColumnsOf (.text table) (.list columns) =
          aliasedColumnsOf (.text table) (.list others) → names = names')) ∧
    (∀ columns others : List Value, columns.length = others.length →
      placeholdersOf (.list columns) = placeholdersOf (.list others)) ∧
    columnNamesOf (.list []) = .ok "" ∧ placeholdersOf (.list []) = .ok "" ∧
      aliasedColumnsOf (.text table) (.list []) = .ok "" := by
  refine ⟨fun columns names given ofTable => ?_, fun columns names others names' given given' =>
    ⟨given.eq_of_columnNamesOf_eq given', given.eq_of_aliasedColumnsOf_eq given'⟩,
    fun columns others same => placeholdersOf_of_length_eq same.symm,
    columnNamesOf_named .nil, placeholdersOf_list [], aliasedColumnsOf_named table .nil⟩
  -- All three lists are made of the same columns, so they have the same number of parts.
  have length := given.named.length_eq
  refine ⟨_, _, _, columnNamesOf_named given.named, placeholdersOf_list columns,
    aliasedColumnsOf_named table given.named, length, given.split_columnNames, ?_, ?_⟩
  · -- There are as many placeholders as names, and one at least.
    rw [length]
    exact split_placeholders (List.length_pos_of_ne_nil given.filled)
  · -- Each part of the third list is a name of the first under its tag.
    rw [given.split_aliased ofTable]
    exact List.map_congr_left fun name _ => by simp only [aliased, tagName_eq, String.append_assoc]

/-- Columns of a repeated name and an empty one, whose other parts are of any kind. -/
def repeated : List Value :=
  [.column (.text "id") (.text "int") (.bool false), .column (.text "") .null .null,
    .column (.text "id") (.int 3) (.bool true)]

/-- None of these names holds a comma. -/
theorem namedPlainly_repeated : NamedPlainly repeated ["id", "", "id"] where
  named := .cons ⟨_, _, rfl⟩ (.cons ⟨_, _, rfl⟩ (.cons ⟨_, _, rfl⟩ .nil))
  filled := by simp
  plain := by simp

/-- The same columns in another order have plain names too. -/
theorem namedPlainly_repeated_swapped :
    NamedPlainly (repeated.rotate 1) ["", "id", "id"] where
  named := .cons ⟨_, _, rfl⟩ (.cons ⟨_, _, rfl⟩ (.cons ⟨_, _, rfl⟩ .nil))
  filled := by simp
  plain := by simp

/-- A repeated name is kept, an empty one has a place of its own, and the order of both shows. -/
theorem lists_read_back_repeated :
    NamedPlainly repeated ["id", "", "id"] ∧
    Text.split ", " "id, , id" = ["id", "", "id"] ∧
    Text.split ", " "$1, $2, $3" = ["$1", "$2", "$3"] ∧
    Text.split ", " "id AS a b_id,  AS a b_, id AS a b_id" =
      ["id AS a b_id", " AS a b_", "id AS a b_id"] ∧
    columnNamesOf (.list repeated) ≠ columnNamesOf (.list (repeated.rotate 1)) ∧
    aliasedColumnsOf (.text "a b") (.list repeated) ≠
      aliasedColumnsOf (.text "a b") (.list (repeated.rotate 1)) ∧
    placeholdersOf (.list repeated) = placeholdersOf (.list [.null, .null, .null]) := by
  have plain : ',' ∉ "a b".toList := by simp
  have given := namedPlainly_repeated
  obtain ⟨cut, told, counted, -⟩ := lists_read_back "a b"
  -- The lists are those that were made, so their parts are the ones that are read back.
  obtain ⟨row, flags, aliases, names, places, tags, -, cutNames, cutPlaces, cutTags⟩ :=
    cut repeated _ given plain
  -- Had the swapped columns the same lists, their names would be in the same order.
  obtain ⟨byNames, byTags⟩ := told _ _ _ _ given namedPlainly_repeated_swapped
  rw [columnNamesOf_named given.named, Except.ok.injEq] at names
  rw [placeholdersOf_list, Except.ok.injEq] at places
  rw [aliasedColumnsOf_named _ given.named, Except.ok.injEq] at tags
  subst names places tags
  exact ⟨given, cutNames, cutPlaces, cutTags, fun same => absurd (byNames same) (by decide),
    fun same => absurd (byTags plain same) (by decide), counted _ _ rfl⟩

end Tablewright.Fragment
