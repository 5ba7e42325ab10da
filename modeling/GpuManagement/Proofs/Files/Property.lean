import GpuManagement.Files.Read
import GpuManagement.Proofs.Data.Table
import GpuManagement.Proofs.Text.Numeral

/-!
# Property files

A line of a property file defines a key when the key is its first word and its second word writes a
number of 64 bits; whatever else is on the line does not count, and a line that is not like this is
passed over. The value of a key is settled by the last line that defines it (`Settles`). The table
of a file answers with these values and no others (`get?_properties_iff`), so what it answers for a
key hangs on the lines that define the key and on their order among themselves
(`Settles.of_definitions_eq`).
-/

namespace GpuManagement.Files

open Text

variable {line text other : List Char} {key : String} {value : UInt64}

/-! ## Lines -/

/-- The line defines the key as the value. -/
def Defines (line : List Char) (key : String) (value : UInt64) : Prop :=
  ∃ word rest, words line = key.toList :: word :: rest ∧ WritesUnsigned 10 word value.toNat

theorem property?_eq_some_iff : property? line = some (key, value) ↔ Defines line key value := by
  unfold property? Defines
  split
  · rename_i first second rest found
    simp only [found, Option.map_eq_some_iff,
      readU64?_eq_some_iff (show 1 < 10 by decide) (show 10 ≤ 16 by decide), Prod.mk.injEq,
      List.cons.injEq]
    constructor
    · rintro ⟨n, h, rfl, rfl⟩
      exact ⟨second, rest, ⟨String.toList_ofList.symm, rfl, rfl⟩, h⟩
    · rintro ⟨_, _, ⟨rfl, rfl, rfl⟩, h⟩
      exact ⟨value, h, String.ofList_toList, rfl⟩
  · rename_i none
    constructor
    · intro h
      cases h
    · rintro ⟨word, rest, found, _⟩
      exact absurd found (none _ _ _)

/-- Whether the line defines the key. -/
def definesKey (key : String) (line : List Char) : Bool :=
  match property? line with
  | some (k, _) => k = key
  | none => false

theorem definesKey_iff : definesKey key line = true ↔ ∃ value, Defines line key value := by
  unfold definesKey
  simp only [← property?_eq_some_iff]
  cases property? line with
  | none => exact ⟨fun h => (by cases h), fun ⟨_, h⟩ => (by cases h)⟩
  | some entry =>
    obtain ⟨k, v⟩ := entry
    simp only [decide_eq_true_eq, Option.some.injEq, Prod.mk.injEq]
    exact ⟨fun h => ⟨v, h, rfl⟩, fun ⟨_, h, _⟩ => h⟩

/-! ## Texts -/

/-- Some line of the text defines the key. -/
def IsDefined (text : List Char) (key : String) : Prop :=
  ∃ line ∈ lines text, ∃ value, Defines line key value

/-- The last line of the text that defines the key defines it as the value. -/
def Settles (text : List Char) (key : String) (value : UInt64) : Prop :=
  ∃ before line after, lines text = before ++ line :: after ∧ Defines line key value ∧
    ∀ later ∈ after, ∀ other, ¬ Defines later key other

/-- The lines of a text that define the key. -/
def definitions (key : String) (text : List Char) : List (List Char) :=
  (lines text).filter (definesKey key)

/-- The value is settled by the last of the definitions. -/
theorem settles_iff : Settles text key value ↔
    ∃ line, (definitions key text).getLast? = some line ∧ Defines line key value := by
  unfold Settles definitions
  constructor
  · rintro ⟨before, line, after, split, defines, last⟩
    refine ⟨line, ?_, defines⟩
    have none : after.filter (definesKey key) = [] := by
      refine List.filter_eq_nil_iff.mpr fun later there found => ?_
      obtain ⟨other, h⟩ := definesKey_iff.mp found
      exact last later there other h
    rw [split, List.filter_append, List.filter_cons_of_pos (definesKey_iff.mpr ⟨value, defines⟩),
      none, List.getLast?_append, List.getLast?_singleton, Option.some_or]
  · rintro ⟨line, last, defines⟩
    obtain ⟨front, h⟩ := List.getLast?_eq_some_iff.mp last
    obtain ⟨before, rest, split, _, found⟩ := List.filter_eq_append_iff.mp h
    obtain ⟨passed, after, rfl, _, _, none⟩ := List.filter_eq_cons_iff.mp found
    refine ⟨before ++ passed, line, after, by rw [split, List.append_assoc], defines, ?_⟩
    intro later there other h
    exact List.filter_eq_nil_iff.mp none later there (definesKey_iff.mpr ⟨other, h⟩)

/-- **Other lines have no say**, nor has the order of lines for different keys: only the definitions
of the key count. -/
theorem Settles.of_definitions_eq (same : definitions key text = definitions key other)
    (h : Settles text key value) : Settles other key value := by
  rw [settles_iff] at h ⊢
  rwa [← same]

theorem isDefined_iff : IsDefined text key ↔ ∃ value, Settles text key value := by
  constructor
  · rintro ⟨line, there, value, defines⟩
    have some : definitions key text ≠ [] :=
      List.ne_nil_of_mem (List.mem_filter.mpr ⟨there, definesKey_iff.mpr ⟨value, defines⟩⟩)
    have last := List.getLast?_eq_some_getLast some
    obtain ⟨value, defines⟩ := definesKey_iff.mp (List.mem_filter.mp (List.getLast_mem some)).2
    exact ⟨value, settles_iff.mpr ⟨_, last, defines⟩⟩
  · rintro ⟨value, _, line, _, split, defines, _⟩
    exact ⟨line, by rw [split]; exact List.mem_append_right _ List.mem_cons_self, value, defines⟩

/-! ## Tables -/

/-- **A table answers what is settled** by the last definition of a key. -/
theorem get?_properties_iff : (properties text).get? key = some value ↔ Settles text key value := by
  unfold properties Settles
  rw [Table.get?_ofEntries_eq_some_iff]
  constructor
  · rintro ⟨front, back, split, last⟩
    obtain ⟨before, rest, e, _, found⟩ := List.filterMap_eq_append_iff.mp split
    obtain ⟨passed, line, after, rfl, _, h, rfl⟩ := List.filterMap_eq_cons_iff.mp found
    refine ⟨before ++ passed, line, after, by rw [e, List.append_assoc],
      property?_eq_some_iff.mp h, fun later there other defines => ?_⟩
    exact last (key, other)
      (List.mem_filterMap.mpr ⟨later, there, property?_eq_some_iff.mpr defines⟩) rfl
  · rintro ⟨before, line, after, split, defines, last⟩
    refine ⟨before.filterMap property?, after.filterMap property?, ?_, ?_⟩
    · rw [split, List.filterMap_append,
        List.filterMap_cons_some (property?_eq_some_iff.mpr defines)]
    · rintro ⟨k, v⟩ there rfl
      obtain ⟨later, hl, h⟩ := List.mem_filterMap.mp there
      exact last later hl v (property?_eq_some_iff.mp h)

theorem get?_properties_eq_none_iff :
    (properties text).get? key = none ↔ ¬ IsDefined text key := by
  rw [isDefined_iff, Option.eq_none_iff_forall_ne_some]
  simp only [ne_eq, get?_properties_iff, not_exists]

/-- A table is empty when no line defines anything. -/
theorem properties_eq_nil_iff : properties text = [] ↔ ∀ key, ¬ IsDefined text key := by
  constructor
  · intro h key
    rw [← get?_properties_eq_none_iff, h]
    rfl
  · intro none
    refine Table.ext (Table.ascending_ofEntries _) List.Pairwise.nil fun key => ?_
    rw [get?_properties_eq_none_iff.mpr (none key)]
    rfl

end GpuManagement.Files
