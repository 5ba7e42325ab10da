import GpuManagement.Counter.Field
import Mathlib.Algebra.Group.Nat.Defs
import Mathlib.Data.List.Basic

/-!
# The bits of a configuration word

A field sets a bit of the word when its value has a one there, counted from the bit that the field
begins at. As long as fields begin in the word, a bit is set when some field sets it
(`testBit_assemble`), and that is all there is to the word. So the order of fields is of no
consequence, and where a part of the word is set by one value only, that value is read back from it
(`slice_eq`).
-/

namespace GpuManagement

namespace FieldValue

variable {f : FieldValue} {fields : List FieldValue} {i : Nat}

/-- The value has a one for the bit of the word. -/
def Sets (f : FieldValue) (i : Nat) : Prop :=
  f.start.toNat ≤ i ∧ f.value.toNat.testBit (i - f.start.toNat) = true

theorem testBit_shiftLeft (inside : f.start.toNat < 64) (hi : i < 64) :
    (f.value <<< f.start.toUInt64).toNat.testBit i = true ↔ f.Sets i := by
  have start : f.start.toUInt64.toNat % 64 = f.start.toNat := Nat.mod_eq_of_lt inside
  rw [UInt64.toNat_shiftLeft, start, Nat.testBit_mod_two_pow, Nat.testBit_shiftLeft,
    decide_eq_true hi, Bool.true_and, Bool.and_eq_true, decide_eq_true_eq]
  exact Iff.rfl

/-- Fields set their bits besides those that are set. -/
theorem testBit_foldl (inside : ∀ f ∈ fields, f.start.toNat < 64) (hi : i < 64) (word : UInt64) :
    (fields.foldl (fun word f => word ||| f.value <<< f.start.toUInt64) word).toNat.testBit i =
      true ↔ word.toNat.testBit i = true ∨ ∃ f ∈ fields, f.Sets i := by
  induction fields generalizing word with
  | nil => simp
  | cons f fields ih =>
    obtain ⟨first, rest⟩ := List.forall_mem_cons.mp inside
    rw [List.foldl_cons, ih rest, UInt64.toNat_or, Nat.testBit_or, Bool.or_eq_true,
      testBit_shiftLeft first hi, List.exists_mem_cons_iff, or_assoc]

/-- A word has 64 bits. -/
theorem lt_of_testBit {word : UInt64} (h : word.toNat.testBit i = true) : i < 64 :=
  (Nat.pow_lt_pow_iff_right Nat.one_lt_two).mp
    (Nat.lt_of_le_of_lt (Nat.ge_two_pow_of_testBit h) word.toNat_lt)

/-- **A bit of the word is set when a field sets it.** -/
theorem testBit_assemble (inside : ∀ f ∈ fields, f.start.toNat < 64) :
    (assemble fields).toNat.testBit i = true ↔ i < 64 ∧ ∃ f ∈ fields, f.Sets i := by
  constructor
  · intro h
    have hi := lt_of_testBit h
    have unset : (0 : UInt64).toNat.testBit i ≠ true := by
      rw [show (0 : UInt64).toNat = 0 from rfl, Nat.zero_testBit]
      exact Bool.false_ne_true
    exact ⟨hi, ((testBit_foldl inside hi 0).mp h).resolve_left unset⟩
  · rintro ⟨hi, set⟩
    exact (testBit_foldl inside hi 0).mpr (.inr set)

/-- A value is read from the part of a word that has its bits. -/
theorem slice_eq {word value first size : Nat} (fits : value < 2 ^ size)
    (own : ∀ i < size, word.testBit (first + i) = value.testBit i) :
    (word >>> first) % 2 ^ size = value := by
  refine Nat.eq_of_testBit_eq fun i => ?_
  rw [Nat.testBit_mod_two_pow, Nat.testBit_shiftRight]
  by_cases within : i < size
  · rw [decide_eq_true within, Bool.true_and, own i within]
  · have above : value < 2 ^ i :=
      Nat.lt_of_lt_of_le fits (Nat.pow_le_pow_right (by decide) (Nat.le_of_not_lt within))
    rw [decide_eq_false within, Bool.false_and, Nat.testBit_lt_two_pow above]

end FieldValue

end GpuManagement
