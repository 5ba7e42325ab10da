import GpuManagement.Proofs.Text.Numeral

/-!
# Hexadecimal of a fixed width

`hexOfWidth` writes the last digits of a number. Where the number is below `16 ^ width` nothing is
cut off, so it is read back (`readDigits_hexOfWidth`), and filling up to that width adds no digit
beyond it (`hexPadded_eq`). The other way round, digits are written again as they stand, in lower
case (`map_toLower_of_readDigits`): their number settles how many zeros lead.
-/

namespace GpuManagement.Text

theorem hexDigit_eq_digitChar {d : Nat} (h : d < 16) : hexDigit d = Nat.digitChar d := by
  have all : ∀ d : Fin 16, hexDigit d.val = Nat.digitChar d.val := by decide
  exact all ⟨d, h⟩

@[simp] theorem length_hexOfWidth (width n : Nat) : (hexOfWidth width n).length = width := by
  induction width generalizing n with
  | zero => rfl
  | succ width ih => rw [hexOfWidth, List.length_append, ih, List.length_singleton]

/-- A number is read back from as many digits as it needs or more. -/
theorem readDigits_hexOfWidth {width n : Nat} (h : n < 16 ^ width) :
    readDigits 16 0 (hexOfWidth width n) = some n := by
  induction width generalizing n with
  | zero =>
    rw [Nat.pow_zero, Nat.lt_one_iff] at h
    rw [h]
    rfl
  | succ width ih =>
    have front : n / 16 < 16 ^ width := by
      rw [Nat.pow_succ] at h
      omega
    have last : n % 16 < 16 := Nat.mod_lt n (by decide)
    rw [hexOfWidth, hexDigit_eq_digitChar last, readDigits_concat]
    exact ⟨n / 16, n % 16, ih front, digitValue?_digitChar (by decide) last, Nat.div_add_mod' n 16⟩

/-- What so many digits write is written with so many digits again. -/
theorem map_toLower_of_readDigits {cs : List Char} {n : Nat} (h : readDigits 16 0 cs = some n) :
    cs.map Char.toLower = hexOfWidth cs.length n := by
  induction cs using List.reverseRecOn generalizing n with
  | nil => rfl
  | append_singleton cs c ih =>
    obtain ⟨m, d, front, last, rfl⟩ := readDigits_concat.mp h
    have below := digitValue?_lt last
    have quotient : (m * 16 + d) / 16 = m := by omega
    have remainder : (m * 16 + d) % 16 = d := by omega
    rw [List.map_append, List.map_singleton, List.length_append, List.length_singleton, hexOfWidth,
      ih front, quotient, remainder, toLower_of_digitValue? (by decide) last,
      hexDigit_eq_digitChar below]

theorem hexLength_le {fuel width n : Nat} (positive : 0 < width) (h : n < 16 ^ width) :
    hexLength fuel n ≤ width := by
  induction fuel generalizing width n with
  | zero => exact positive
  | succ fuel ih =>
    rw [hexLength]
    split
    · exact positive
    · rename_i large
      obtain ⟨width, rfl⟩ := Nat.exists_eq_succ_of_ne_zero (Nat.ne_of_gt positive)
      rw [Nat.succ_eq_add_one, Nat.pow_succ] at h
      have more : 0 < width := by
        refine Nat.pos_of_ne_zero fun none => large ?_
        rw [none, Nat.pow_zero, Nat.one_mul] at h
        exact h
      exact Nat.succ_le_succ (ih more (by omega))

/-- Filling up to a width that is enough takes just so many digits. -/
theorem hexPadded_eq {width n : Nat} (positive : 0 < width) (h : n < 16 ^ width) :
    hexPadded width n = hexOfWidth width n := by
  unfold hexPadded
  rw [Nat.max_eq_left (hexLength_le positive h)]

/-! ## Digits alone -/

/-- Every hexadecimal digit has a value. -/
theorem exists_digitValue? {c : Char} (h : c.isHexDigit = true) :
    ∃ d, digitValue? 16 c = some d := by
  have ranges := toNat_of_isHexDigit h
  unfold digitValue?
  dsimp only
  split
  · exact ⟨_, if_pos (by omega)⟩
  · split
    · exact ⟨_, if_pos (by omega)⟩
    · have upper : 65 ≤ c.toNat ∧ c.toNat ≤ 70 := by omega
      rw [if_pos upper]
      exact ⟨_, if_pos (by omega)⟩

/-- The values below ten are those of the decimal digits. -/
theorem digitValue?_eq_some_iff {c : Char} {d : Nat} (small : d < 10) :
    digitValue? 16 c = some d ↔ c.toNat = 48 + d := by
  unfold digitValue?
  dsimp only
  rw [Option.ite_none_right_eq_some, Option.some.injEq]
  by_cases digit : 48 ≤ c.toNat ∧ c.toNat ≤ 57
  · rw [if_pos digit]
    omega
  · rw [if_neg digit]
    split
    · omega
    · split <;> omega

/-- Hexadecimal digits always write a number. -/
theorem exists_writes {cs : List Char} (nonempty : cs ≠ [])
    (digits : ∀ c ∈ cs, c.isHexDigit = true) : ∃ n, Writes 16 cs n := by
  have read : ∀ acc, ∃ n, readDigits 16 acc cs = some n := by
    clear nonempty
    induction cs with
    | nil => exact fun acc => ⟨acc, rfl⟩
    | cons c cs ih =>
      intro acc
      obtain ⟨first, rest⟩ := List.forall_mem_cons.mp digits
      obtain ⟨d, value⟩ := exists_digitValue? first
      rw [readDigits, value]
      exact ih rest _
  obtain ⟨n, h⟩ := read 0
  exact ⟨n, writes_of_readDigits (by decide) (by decide) nonempty h⟩

/-- A digit is written by itself. -/
theorem writes_singleton_iff {c : Char} {n : Nat} :
    Writes 16 [c] n ↔ digitValue? 16 c = some n := by
  rw [← readNat?_eq_some_iff (by decide) (by decide)]
  unfold readNat?
  rw [if_neg (by exact Bool.false_ne_true), readDigits]
  cases digitValue? 16 c with
  | none => exact ⟨fun h => (by cases h), fun h => (by cases h)⟩
  | some d => simp only [readDigits, Nat.zero_mul, Nat.zero_add]

end GpuManagement.Text
