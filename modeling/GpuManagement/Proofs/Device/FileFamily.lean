import GpuManagement.Proofs.Device.Capability

/-!
# Families of files

A file whose name has a mark stands for a family: the files whose names have a number in place of
the mark. The indices of a family are the numbers that are found among names that are present.

`FileSet.isFound_indicesBy` says which these are, for every standard library of regular expressions.
Whatever stands before the mark and behind it is looked for as it is, and between has to be a run of
ASCII digits, though runs of digits of any script are looked for: of others no number is read. A
number that 32 bits do not hold is not found, and leading zeros make no difference. A library may
refuse an expression that is too large for it, and then nothing is found.
-/

namespace GpuManagement

open Text

/-! ## Names with a number -/

/-- A run of digits, of any script, that is read as a number holds ASCII digits only. -/
theorem Text.isDigit_of_readU32? {run : List Char} {n : UInt32}
    (digits : ∀ c ∈ run, isDecimalDigit c = true) (read : readU32? 10 run = some n) :
    ∀ c ∈ run, isDigit c = true := by
  have unsigned : dropPlus run = run := by
    unfold dropPlus
    split
    · exact absurd (digits '+' List.mem_cons_self) (by decide)
    · rfl
  unfold readU32? readBelow? at read
  rw [unsigned] at read
  cases h : readNat? 10 run with
  | none =>
    rw [h] at read
    cases read
  | some m =>
    obtain ⟨_, h⟩ := Option.ite_none_left_eq_some.mp h
    exact (readDigits_ten_iff.mp h).1

namespace FileSet

/-- A file of the family is present that has the index in its name. -/
def Names (s : FileSet) (pattern : String) (i : UInt32) : Prop :=
  String.ofList (atIndex pattern.toList i) ∈ s.names

instance (s : FileSet) (pattern : String) (i : UInt32) : Decidable (s.Names pattern i) :=
  inferInstanceAs (Decidable (_ ∈ s.names))

/-- A file of the family is present whose digits write the index, with leading zeros or without. -/
def Numbers (s : FileSet) (pattern : String) (i : UInt32) : Prop :=
  ∃ run : List Char, run ≠ [] ∧ (∀ c ∈ run, isDigit c = true) ∧
    Nat.ofDigitChars 10 run 0 = i.toNat ∧
    String.ofList (replaceChar '#' run pattern.toList) ∈ s.names

variable {s : FileSet} {pattern : String} {i : UInt32}

theorem Names.numbers (h : s.Names pattern i) : s.Numbers pattern i :=
  ⟨decimal i.toNat, decimal_ne_nil _, fun _ => isDigit_of_mem_decimal,
    Nat.ofDigitChars_ten_toDigits, h⟩

/-- The indices that a standard library finds for a family are those that its files write. -/
theorem mem_indicesBy_iff_numbers {lib : ExpressionLibrary} (standard : lib.IsStandard)
    (family : IsFamily pattern.toList) {e : lib.Expression}
    (compiled : lib.compile? (lib.source pattern.toList) = some e) :
    i ∈ s.indicesBy lib pattern ↔ s.Numbers pattern i := by
  rw [mem_indicesBy compiled]
  simp only [indexIn?_eq_some_iff standard family compiled]
  constructor
  · rintro ⟨name, present, run, e, nonempty, digits, read⟩
    have digits := isDigit_of_readU32? digits read
    refine ⟨run, nonempty, digits, (readU32?_digits_iff nonempty digits).mp read, ?_⟩
    rw [← e, String.ofList_toList]
    exact present
  · rintro ⟨run, nonempty, digits, value, present⟩
    refine ⟨_, present, run, String.toList_ofList, nonempty, ?_, ?_⟩
    · intro c hc
      exact isDecimalDigit_of_isDigit (digits c hc)
    · exact (readU32?_digits_iff nonempty digits).mpr value

/-- The indices that are found for a family are those that its files write. -/
theorem mem_indices_iff_numbers (family : IsFamily pattern.toList) :
    i ∈ s.indices pattern ↔ s.Numbers pattern i := by
  obtain ⟨e, compiled⟩ := ExpressionLibrary.builtIn_accepts family
  unfold indices
  exact mem_indicesBy_iff_numbers ExpressionLibrary.builtIn_isStandard family compiled

/-! ## What is found -/

/-- The name of a file that is present is the text before a mark, ASCII digits that write the number,
and the text behind the mark. -/
def HasNumber (s : FileSet) (front back : List Char) (n : Nat) : Prop :=
  ∃ name ∈ s.names, ∃ run : List Char, name.toList = front ++ run ++ back ∧ run ≠ [] ∧
    (∀ c ∈ run, isDigit c = true) ∧ Nat.ofDigitChars 10 run 0 = n

/-- What a library finds for a pattern with these texts on the two sides of its mark. -/
structure IsFound (lib : ExpressionLibrary) (s : FileSet) (pattern : String)
    (front back : List Char) : Prop where
  mem_iff : lib.Accepts pattern.toList → ∀ n,
    (∃ i ∈ s.indicesBy lib pattern, i.toNat = n) ↔ n < 2 ^ 32 ∧ s.HasNumber front back n
  none_of_refused : ¬ lib.Accepts pattern.toList → s.indicesBy lib pattern = []
  ascending : (s.indicesBy lib pattern).Pairwise (· < ·)
  distinct : (s.indicesBy lib pattern).Nodup
  grows : ∀ more : FileSet, s.names ⊆ more.names →
    s.indicesBy lib pattern ⊆ more.indicesBy lib pattern

/-- More names have all the indices that fewer have. -/
theorem indicesBy_subset (lib : ExpressionLibrary) {more : FileSet} (h : s.names ⊆ more.names) :
    s.indicesBy lib pattern ⊆ more.indicesBy lib pattern := by
  intro i hi
  by_cases accepted : lib.Accepts pattern.toList
  · obtain ⟨_, compiled⟩ := accepted
    obtain ⟨name, present, found⟩ := (mem_indicesBy compiled).mp hi
    exact (mem_indicesBy compiled).mpr ⟨name, h present, found⟩
  · rw [indicesBy_of_refused accepted] at hi
    cases hi

section Sides

variable {front back : List Char} (e : pattern.toList = front ++ '#' :: back)
  (plain : '#' ∉ front) (plain' : '#' ∉ back)

include e plain plain'

theorem numbers_iff_hasNumber : s.Numbers pattern i ↔ s.HasNumber front back i.toNat := by
  unfold Numbers HasNumber
  rw [e]
  simp only [replaceChar_append_mark plain plain']
  constructor
  · rintro ⟨run, nonempty, digits, value, present⟩
    exact ⟨_, present, run, String.toList_ofList, nonempty, digits, value⟩
  · rintro ⟨name, present, run, written, nonempty, digits, value⟩
    refine ⟨run, nonempty, digits, value, ?_⟩
    rwa [← written, String.ofList_toList]

/-- **The indices of a family**: the numbers of 32 bits that names have between the text before the
mark and the text behind it. -/
theorem isFound_indicesBy {lib : ExpressionLibrary} (standard : lib.IsStandard) :
    s.IsFound lib pattern front back where
  mem_iff := by
    rintro ⟨_, compiled⟩ n
    have family : IsFamily pattern.toList := e ▸ count_append_mark plain plain'
    simp only [mem_indicesBy_iff_numbers standard family compiled,
      numbers_iff_hasNumber e plain plain']
    constructor
    · rintro ⟨i, there, rfl⟩
      exact ⟨i.toNat_lt, there⟩
    · rintro ⟨below, there⟩
      have value : (UInt32.ofNat n).toNat = n := UInt32.toNat_ofNat_of_lt' below
      exact ⟨UInt32.ofNat n, value.symm ▸ there, value⟩
  none_of_refused := indicesBy_of_refused
  ascending := s.pairwise_indicesBy lib pattern
  distinct := by
    refine (s.pairwise_indicesBy lib pattern).imp ?_
    intro i j below same
    rw [same] at below
    exact UInt32.lt_irrefl j below
  grows := fun _ h => indicesBy_subset lib h

end Sides

/-- Names around a pattern whose dot, brackets and dollar sign stand for themselves: one number in
two spellings, the greatest one, one that is too large, no digits, digits of another script, and
another character for the dot. -/
def oddNames : FileSet :=
  ⟨["in.007(x)$1", "in.7(x)$1", "in.4294967295(x)$1", "in.4294967296(x)$1", "in.(x)$1",
    "in.\u0663(x)$1", "inX3(x)$1"]⟩

/-- The spellings of one number are one index, and the last four names have none. -/
theorem isFound_oddNames :
    "in.#(x)$1".toList = "in.".toList ++ '#' :: "(x)$1".toList ∧
      '#' ∉ "in.".toList ∧ '#' ∉ "(x)$1".toList ∧
      oddNames.IsFound .builtIn "in.#(x)$1" "in.".toList "(x)$1".toList ∧
      oddNames.indicesBy .builtIn "in.#(x)$1" = [7, 4294967295] ∧
      oddNames.HasNumber "in.".toList "(x)$1".toList 7 ∧
      ¬ oddNames.HasNumber "in.".toList "(x)$1".toList 3 := by
  have e : "in.#(x)$1".toList = "in.".toList ++ '#' :: "(x)$1".toList := by decide
  have plain : '#' ∉ "in.".toList := by decide
  have plain' : '#' ∉ "(x)$1".toList := by decide
  have found : oddNames.IsFound .builtIn "in.#(x)$1" "in.".toList "(x)$1".toList :=
    isFound_indicesBy e plain plain' ExpressionLibrary.builtIn_isStandard
  have listed : oddNames.indicesBy .builtIn "in.#(x)$1" = [7, 4294967295] := by decide +kernel
  have accepted := ExpressionLibrary.builtIn_accepts (e ▸ count_append_mark plain plain')
  have mem_iff := found.mem_iff accepted
  rw [listed] at mem_iff
  have others : ∀ i ∈ ([7, 4294967295] : List UInt32), i.toNat ≠ 3 :=
    List.forall_mem_cons.mpr ⟨by decide, List.forall_mem_singleton.mpr (by decide)⟩
  refine ⟨e, plain, plain', found, listed, ?_, fun written => ?_⟩
  · exact ((mem_iff 7).mp ⟨7, List.mem_cons_self, rfl⟩).2
  · obtain ⟨i, hi, value⟩ := (mem_iff 3).mpr ⟨by decide, written⟩
    exact others i hi value

end FileSet

end GpuManagement
