import Tablewright.Json.Reader
import Tablewright.Proofs.Outcome
import Tablewright.Proofs.Value.Merging

/-! What is read from JSON: the names in an object are distinct, whatever its text repeats. -/

namespace Tablewright.Json

/-- A record holds its values under distinct keys, and nothing is asked of other values. -/
def Keyed : Value → Prop
  | .record entries => (keysOf entries).Nodup
  | _ => True

/-- Members that are read one after another go by distinct names. -/
theorem nodup_readMembers {nested : ValueReader} {fuel : Nat}
    {entries known : List (String × Value)}
    {cs left : List Char} (once : (keysOf entries).Nodup)
    (read : readMembers nested fuel entries cs = .ok (known, left)) : (keysOf known).Nodup := by
  -- The names that were read before stay distinct with each further member.
  induction fuel generalizing entries cs with
  | zero => cases read
  | succ fuel ih =>
    rw [readMembers] at read
    obtain ⟨⟨⟨name, value⟩, behind⟩, -, read⟩ := exists_of_bind_eq_ok read
    dsimp only at read
    -- A member is put under its name, in place of an earlier one of that name.
    have grown := nodup_assign once name value
    split at read
    · cases read
      exact grown
    · exact ih grown read
    · cases read

/-- An object holds its values under distinct names. -/
theorem keyed_readObject {nested : ValueReader} {cs left : List Char} {value : Value}
    (read : readObject nested cs = .ok (value, left)) : Keyed value := by
  -- Nothing is known before the first member.
  unfold readObject at read
  split at read
  · cases read
    exact List.nodup_nil
  · obtain ⟨⟨entries, behind⟩, members, read⟩ := exists_of_bind_eq_ok read
    cases read
    exact nodup_readMembers (by simp [keysOf]) members

/-- A number is no record. -/
theorem keyed_readNumber {cs left : List Char} {value : Value}
    (read : readNumber cs = .ok (value, left)) : Keyed value := by
  -- A number is whole or has a fraction, and neither kind holds entries.
  have whole : ∀ {negative digits value}, intOf negative digits = .ok value → Keyed value := by
    intro negative digits value made
    unfold intOf at made
    split at made
    · cases made
    · cases made
      trivial
  have unsigned : ∀ {start negative cs},
      readUnsigned start negative cs = .ok (value, left) → Keyed value := by
    intro start negative cs read
    unfold readUnsigned at read
    split at read
    · cases read
    · dsimp only at read
      split at read
      · obtain ⟨number, made, read⟩ := exists_of_bind_eq_ok read
        cases read
        exact whole made
      · cases read
        trivial
  -- A sign in front changes nothing of what kind of value is read.
  unfold readNumber at read
  split at read
  · exact unsigned read
  · exact unsigned read

/-- An array is no record. -/
theorem keyed_readArray {nested : ValueReader} {cs left : List Char} {value : Value}
    (read : readArray nested cs = .ok (value, left)) : Keyed value := by
  -- An array is empty or made of items, and is a list in both cases.
  unfold readArray at read
  split at read
  · cases read
    trivial
  · obtain ⟨⟨items, behind⟩, -, read⟩ := exists_of_bind_eq_ok read
    cases read
    trivial

/-- A word is no record. -/
theorem keyed_readWord? {cs left : List Char} {value : Value}
    (read : readWord? cs = some (value, left)) : Keyed value := by
  -- Each word stands for a value that has no entries.
  obtain ⟨⟨word, spelled⟩, member, found⟩ := List.exists_of_findSome?_eq_some read
  dsimp only at found
  split at found
  · cases found
    have all : ∀ entry ∈ words, Keyed entry.2 := by simp [words, Keyed]
    exact all _ member
  · cases found

/-- Whatever is read, an object holds its values under distinct names. -/
theorem keyed_readValue {depth : Nat} {cs left : List Char} {value : Value}
    (read : readValue depth cs = .ok (value, left)) : Keyed value := by
  -- The first character tells which reader goes on, and only the one of objects gives records.
  unfold readValue at read
  split at read
  · obtain ⟨⟨text, behind⟩, -, read⟩ := exists_of_bind_eq_ok read
    cases read
    trivial
  · cases read
  · cases read
  · exact keyed_readArray read
  · -- Objects are the only values with entries, and their reader keeps the last of each name.
    exact keyed_readObject read
  · split at read
    · rename_i found
      cases read
      exact keyed_readWord? found
    · exact keyed_readNumber read

/-- A text that is read as an object gives its values distinct names. -/
theorem keyed_read {cs : List Char} {value : Value} (whole : read cs = .ok value) :
    Keyed value := by
  -- Of a whole text nothing but blanks is left, which changes no value that was read.
  unfold read readWithin at whole
  split at whole
  · cases whole
  · -- A value was read, and it is taken only when the text ends behind it.
    obtain ⟨⟨found, left⟩, spelled, whole⟩ := exists_of_bind_eq_ok whole
    dsimp only at whole
    split at whole
    · cases whole
      exact keyed_readValue spelled
    · cases whole

end Tablewright.Json
