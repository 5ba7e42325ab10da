import GpuManagement.Text.Blank
import GpuManagement.Text.Numeral
import Mathlib.Algebra.Group.Nat.Defs
import Mathlib.Data.List.Induction

/-!
# Numbers in digits

A run of ASCII digits reads as the number it writes, `Nat.ofDigitChars`, and nothing else is read
in decimal without a sign (`readDigits_ten_iff`). What `decimal` writes is such a run, so a number
is read back from its written form, where a sign is allowed (`readSigned?_decimal`) and where it is
not (`readU64?_decimal`). In any base the number of digits bounds what is read (`readNat?_lt`).

What a text writes in a base is said by `Writes`, without a reader: the digits of the number after
any number of zeros. Reading takes exactly such texts (`readNat?_eq_some_iff`), and the readers of
fixed width take them with a plus sign before them as well (`WritesUnsigned`).
-/

namespace GpuManagement.Text

/-- An ASCII digit by its code point. -/
theorem isDigit_iff {c : Char} : isDigit c = true ↔ 48 ≤ c.toNat ∧ c.toNat ≤ 57 := by
  unfold isDigit
  rw [Bool.and_eq_true, decide_eq_true_eq, decide_eq_true_eq]
  exact Iff.rfl

/-- The decimal digits are the ASCII ones, with the value of their place. -/
theorem digitValue?_ten_iff {c : Char} {d : Nat} :
    digitValue? 10 c = some d ↔ isDigit c = true ∧ d = c.toNat - 48 := by
  rw [isDigit_iff]
  unfold digitValue?
  by_cases h : 48 ≤ c.toNat ∧ c.toNat ≤ 57
  · simp only [h, and_self, if_true, true_and]
    rw [if_pos (by omega), Option.some.injEq, eq_comm]
  · simp only [if_neg h]
    constructor
    · intro e
      by_cases lower : 97 ≤ c.toNat ∧ c.toNat ≤ 102
      · rw [if_pos lower, if_neg (by omega)] at e
        cases e
      · by_cases upper : 65 ≤ c.toNat ∧ c.toNat ≤ 70
        · rw [if_neg lower, if_pos upper, if_neg (by omega)] at e
          cases e
        · rw [if_neg lower, if_neg upper, if_neg (by omega)] at e
          cases e
    · rintro ⟨h', _⟩
      exact absurd h' h

/-- Decimal digits are read as the number that they write. -/
theorem readDigits_ten_iff {cs : List Char} {acc n : Nat} :
    readDigits 10 acc cs = some n ↔ (∀ c ∈ cs, isDigit c = true) ∧ n = Nat.ofDigitChars 10 cs acc := by
  induction cs generalizing acc with
  | nil =>
    rw [readDigits, Nat.ofDigitChars_nil, Option.some.injEq, eq_comm]
    exact ⟨fun h => ⟨fun _ hc => (by cases hc), h⟩, fun h => h.2⟩
  | cons c cs ih =>
    rw [readDigits, Nat.ofDigitChars_cons]
    cases hd : digitValue? 10 c with
    | none =>
      constructor
      · intro h
        cases h
      · rintro ⟨all, _⟩
        rw [digitValue?_ten_iff.mpr ⟨all c List.mem_cons_self, rfl⟩] at hd
        cases hd
    | some d =>
      obtain ⟨hc, rfl⟩ := digitValue?_ten_iff.mp hd
      simp only [ih, Nat.mul_comm acc 10, List.mem_cons, forall_eq_or_imp, hc, true_and]
      exact Iff.rfl

theorem digitValue?_lt {base d : Nat} {c : Char} (h : digitValue? base c = some d) : d < base := by
  obtain ⟨small, e⟩ := Option.ite_none_right_eq_some.mp h
  cases e
  exact small

theorem readDigits_lt {base acc n : Nat} {cs : List Char} (h : readDigits base acc cs = some n) :
    n < (acc + 1) * base ^ cs.length := by
  induction cs generalizing acc with
  | nil =>
    cases h
    rw [List.length_nil, Nat.pow_zero, Nat.mul_one]
    exact Nat.lt_succ_self _
  | cons c cs ih =>
    rw [readDigits] at h
    cases hd : digitValue? base c with
    | none =>
      rw [hd] at h
      cases h
    | some d =>
      rw [hd] at h
      have step : acc * base + d + 1 ≤ (acc + 1) * base := by
        rw [Nat.succ_mul]
        exact Nat.add_le_add_left (digitValue?_lt hd) _
      calc n < (acc * base + d + 1) * base ^ cs.length := ih h
        _ ≤ (acc + 1) * base * base ^ cs.length := Nat.mul_le_mul_right _ step
        _ = (acc + 1) * base ^ (c :: cs).length := by
          rw [List.length_cons, Nat.pow_succ', Nat.mul_assoc]

/-- What so many digits write is below the power of the base. -/
theorem readNat?_lt {base n : Nat} {cs : List Char} (h : readNat? base cs = some n) :
    n < base ^ cs.length := by
  obtain ⟨_, h⟩ := Option.ite_none_left_eq_some.mp h
  have below := readDigits_lt h
  rwa [Nat.zero_add, Nat.one_mul] at below

/-- The written form of a number holds ASCII digits only. -/
theorem isDigit_of_mem_decimal {n : Nat} {c : Char} (h : c ∈ decimal n) : isDigit c = true := by
  have digit := Nat.isDigit_of_mem_toDigits (by omega) (by omega) h
  rw [Char.isDigit, Bool.and_eq_true, decide_eq_true_eq, decide_eq_true_eq] at digit
  exact isDigit_iff.mpr ⟨digit.1, digit.2⟩

theorem decimal_ne_nil (n : Nat) : decimal n ≠ [] := Nat.toDigits_ne_nil

/-- The written form of a number is a number. -/
theorem isNumber_decimal (n : Nat) : isNumber (decimal n) = true := by
  unfold isNumber
  rw [Bool.and_eq_true, Bool.not_eq_true', List.isEmpty_eq_false_iff, List.all_eq_true]
  exact ⟨decimal_ne_nil n, fun _ => isDigit_of_mem_decimal⟩

/-- A text that starts with a digit has no plus sign to drop. -/
theorem dropPlus_of_isDigit {c : Char} {cs : List Char} (h : isDigit c = true) :
    dropPlus (c :: cs) = c :: cs := by
  unfold dropPlus
  split
  · rename_i e
    cases e
    exact absurd h (by decide)
  · rfl

/-- A run of digits reads as what it writes when that is small enough. -/
theorem readBelow?_digits_iff {cs : List Char} (nonempty : cs ≠ [])
    (digits : ∀ c ∈ cs, isDigit c = true) {bound n : Nat} :
    readBelow? 10 bound cs = some n ↔ Nat.ofDigitChars 10 cs 0 = n ∧ n < bound := by
  obtain ⟨c, rest, rfl⟩ := List.exists_cons_of_ne_nil nonempty
  unfold readBelow? readNat?
  rw [dropPlus_of_isDigit (digits c List.mem_cons_self), if_neg (by exact Bool.false_ne_true),
    readDigits_ten_iff.mpr ⟨digits, rfl⟩]
  simp only [Option.ite_none_right_eq_some, Option.some.injEq]
  constructor
  · rintro ⟨small, rfl⟩
    exact ⟨rfl, small⟩
  · rintro ⟨rfl, small⟩
    exact ⟨small, rfl⟩

/-- A run of digits reads as a number of 32 bits when what it writes is small enough. -/
theorem readU32?_digits_iff {cs : List Char} (nonempty : cs ≠ [])
    (digits : ∀ c ∈ cs, isDigit c = true) {n : UInt32} :
    readU32? 10 cs = some n ↔ Nat.ofDigitChars 10 cs 0 = n.toNat := by
  unfold readU32?
  rw [Option.map_eq_some_iff]
  simp only [readBelow?_digits_iff nonempty digits]
  constructor
  · rintro ⟨_, ⟨e, small⟩, rfl⟩
    rw [e, UInt32.toNat_ofNat_of_lt' small]
  · intro e
    exact ⟨n.toNat, ⟨e, n.toNat_lt_size⟩, UInt32.ofNat_toNat⟩

/-- A run of digits reads as a number of 64 bits when what it writes is small enough. -/
theorem readU64?_digits_iff {cs : List Char} (nonempty : cs ≠ [])
    (digits : ∀ c ∈ cs, isDigit c = true) {n : UInt64} :
    readU64? 10 cs = some n ↔ Nat.ofDigitChars 10 cs 0 = n.toNat := by
  unfold readU64?
  rw [Option.map_eq_some_iff]
  simp only [readBelow?_digits_iff nonempty digits]
  constructor
  · rintro ⟨_, ⟨e, small⟩, rfl⟩
    rw [e, UInt64.toNat_ofNat_of_lt' small]
  · intro e
    exact ⟨n.toNat, ⟨e, n.toNat_lt_size⟩, UInt64.ofNat_toNat⟩

/-- A number of 32 bits is read back from its written form. -/
theorem readU32?_decimal (n : UInt32) : readU32? 10 (decimal n.toNat) = some n :=
  (readU32?_digits_iff (decimal_ne_nil _) fun _ => isDigit_of_mem_decimal).mpr
    Nat.ofDigitChars_ten_toDigits

/-- A number of 64 bits is read back from its written form. -/
theorem readU64?_decimal (n : UInt64) : readU64? 10 (decimal n.toNat) = some n :=
  (readU64?_digits_iff (decimal_ne_nil _) fun _ => isDigit_of_mem_decimal).mpr
    Nat.ofDigitChars_ten_toDigits

/-- A number that fits beside a sign is read with one as it is without. -/
theorem readSigned?_decimal {bits n : Nat} (fits : n < 1 <<< (bits - 1)) :
    readSigned? bits (decimal n) = some (n : Int) := by
  have digits : ∀ c ∈ decimal n, isDigit c = true := fun _ => isDigit_of_mem_decimal
  have read : readBelow? 10 (1 <<< (bits - 1)) (decimal n) = some n :=
    (readBelow?_digits_iff (decimal_ne_nil n) digits).mpr ⟨Nat.ofDigitChars_ten_toDigits, fits⟩
  unfold readSigned?
  split
  · rename_i e
    exact absurd (digits '-' (e ▸ List.mem_cons_self)) (by decide)
  · rw [read]
    rfl

/-! ## Numbers in any base -/

/-- The text writes the number in a base: the digits of the number after any number of zeros,
letters in either case. -/
def Writes (base : Nat) (text : List Char) (n : Nat) : Prop :=
  ∃ zeros, text.map Char.toLower = List.replicate zeros '0' ++ Nat.toDigits base n

theorem Writes.ne_nil {base n : Nat} {text : List Char} (h : Writes base text n) : text ≠ [] := by
  rintro rfl
  obtain ⟨_, h⟩ := h
  exact Nat.toDigits_ne_nil (List.append_eq_nil_iff.mp h.symm).2

theorem toNat_toLower (c : Char) :
    c.toLower.toNat = if 65 ≤ c.toNat ∧ c.toNat ≤ 90 then c.toNat + 32 else c.toNat := by
  have upper : (c.val ≥ 'A'.val ∧ c.val ≤ 'Z'.val) ↔ 65 ≤ c.toNat ∧ c.toNat ≤ 90 := Iff.rfl
  unfold Char.toLower
  split
  · rename_i h
    rw [if_pos (upper.mp h)]
    show (c.val + ('a'.val - 'A'.val)).toNat = c.val.toNat + 32
    have below : c.val.toNat ≤ 90 := h.2
    rw [UInt32.toNat_add]
    exact Nat.mod_eq_of_lt (by rw [show ('a'.val - 'A'.val).toNat = 32 from rfl]; omega)
  · rename_i h
    rw [if_neg (fun g => h (upper.mpr g))]

/-- Letters count in either case. -/
theorem digitValue?_toLower (base : Nat) (c : Char) :
    digitValue? base c.toLower = digitValue? base c := by
  unfold digitValue?
  rw [toNat_toLower]
  by_cases upper : 65 ≤ c.toNat ∧ c.toNat ≤ 90
  · rw [if_pos upper]
    by_cases hex : c.toNat ≤ 70
    · simp only [show ¬ (48 ≤ c.toNat + 32 ∧ c.toNat + 32 ≤ 57) by omega, if_false,
        show 97 ≤ c.toNat + 32 ∧ c.toNat + 32 ≤ 102 by omega, and_self, if_true,
        show ¬ (48 ≤ c.toNat ∧ c.toNat ≤ 57) by omega,
        show ¬ (97 ≤ c.toNat ∧ c.toNat ≤ 102) by omega, show 65 ≤ c.toNat ∧ c.toNat ≤ 70 by omega,
        show c.toNat + 32 - 87 = c.toNat - 55 by omega]
    · simp only [show ¬ (48 ≤ c.toNat + 32 ∧ c.toNat + 32 ≤ 57) by omega, if_false,
        show ¬ (97 ≤ c.toNat + 32 ∧ c.toNat + 32 ≤ 102) by omega,
        show ¬ (65 ≤ c.toNat + 32 ∧ c.toNat + 32 ≤ 70) by omega,
        show ¬ (48 ≤ c.toNat ∧ c.toNat ≤ 57) by omega,
        show ¬ (97 ≤ c.toNat ∧ c.toNat ≤ 102) by omega,
        show ¬ (65 ≤ c.toNat ∧ c.toNat ≤ 70) by omega]
  · rw [if_neg upper]

/-- A digit is read back from its written form. -/
theorem digitValue?_digitChar {base d : Nat} (small : base ≤ 16) (h : d < base) :
    digitValue? base (Nat.digitChar d) = some d := by
  have all : ∀ d : Fin 16, ∀ base : Fin 17, d.val < base.val →
      digitValue? base (Nat.digitChar d) = some d.val := by decide
  exact all ⟨d, by omega⟩ ⟨base, by omega⟩ h

theorem readDigits_map_toLower (base acc : Nat) (cs : List Char) :
    readDigits base acc (cs.map Char.toLower) = readDigits base acc cs := by
  induction cs generalizing acc with
  | nil => rfl
  | cons c cs ih =>
    rw [List.map_cons, readDigits, readDigits, digitValue?_toLower]
    simp only [ih]

theorem readDigits_append (base acc : Nat) (cs ds : List Char) :
    readDigits base acc (cs ++ ds) =
      (readDigits base acc cs).bind fun n => readDigits base n ds := by
  induction cs generalizing acc with
  | nil => rfl
  | cons c cs ih =>
    rw [List.cons_append, readDigits, readDigits]
    cases digitValue? base c with
    | none => rfl
    | some d => exact ih _

theorem readDigits_replicate {base : Nat} (h : 0 < base) (small : base ≤ 16) (zeros : Nat) :
    readDigits base 0 (List.replicate zeros '0') = some 0 := by
  induction zeros with
  | zero => rfl
  | succ zeros ih =>
    rw [List.replicate_succ, readDigits, show '0' = Nat.digitChar 0 from rfl,
      digitValue?_digitChar small h, Nat.zero_mul]
    exact ih

/-- The digits of a number are read as the number. -/
theorem readDigits_toDigits {base : Nat} (large : 1 < base) (small : base ≤ 16) (n : Nat) :
    readDigits base 0 (Nat.toDigits base n) = some n := by
  induction n using Nat.strongRecOn with
  | ind n ih =>
    by_cases below : n < base
    · rw [Nat.toDigits_of_lt_base below, readDigits, digitValue?_digitChar small below]
      simp only [Nat.zero_mul, Nat.zero_add]
      rfl
    · have step := Nat.toDigits_of_base_le large (Nat.le_of_not_lt below)
      have less : n / base < n := Nat.div_lt_self (by omega) large
      have digit : n % base < base := Nat.mod_lt _ (by omega)
      rw [step, readDigits_append, ih _ less, Option.bind_some, readDigits,
        digitValue?_digitChar small digit]
      simp only [Nat.div_add_mod']
      rfl

/-- **A number is read from a text that writes it.** -/
theorem readNat?_of_writes {base n : Nat} {text : List Char} (large : 1 < base) (small : base ≤ 16)
    (h : Writes base text n) : readNat? base text = some n := by
  have nonempty := h.ne_nil
  obtain ⟨zeros, h⟩ := h
  unfold readNat?
  rw [if_neg (by rwa [List.isEmpty_iff]), ← readDigits_map_toLower, h, readDigits_append,
    readDigits_replicate (by omega) small, Option.bind_some, readDigits_toDigits large small]

/-- A digit is the written form of its value, in either case. -/
theorem toLower_of_digitValue? {base d : Nat} {c : Char} (small : base ≤ 16)
    (h : digitValue? base c = some d) : c.toLower = Nat.digitChar d := by
  have written : ∀ d : Fin 16,
      (Nat.digitChar d.val).toNat = if d.val < 10 then 48 + d.val else 87 + d.val := by decide
  have below := digitValue?_lt h
  obtain ⟨inside, e⟩ := Option.ite_none_right_eq_some.mp h
  refine Char.toNat_inj.mp ?_
  rw [toNat_toLower, written ⟨d, by omega⟩]
  split at e
  · cases e
    rw [if_neg (by omega), if_pos (by dsimp only; omega)]
    dsimp only
    omega
  · split at e
    · cases e
      rw [if_neg (by omega), if_neg (by dsimp only; omega)]
      dsimp only
      omega
    · split at e
      · cases e
        rw [if_pos (by omega), if_neg (by dsimp only; omega)]
        dsimp only
        omega
      · cases e
        exact absurd below (Nat.lt_irrefl _)

/-- One digit more at the end. -/
theorem readDigits_concat {base acc n : Nat} {cs : List Char} {c : Char} :
    readDigits base acc (cs ++ [c]) = some n ↔
      ∃ m d, readDigits base acc cs = some m ∧ digitValue? base c = some d ∧ m * base + d = n := by
  rw [readDigits_append, Option.bind_eq_some_iff]
  constructor
  · rintro ⟨m, hm, h⟩
    rw [readDigits] at h
    cases hd : digitValue? base c with
    | none =>
      rw [hd] at h
      cases h
    | some d =>
      rw [hd] at h
      exact ⟨m, d, hm, rfl, Option.some.inj h⟩
  · rintro ⟨m, d, hm, hd, rfl⟩
    refine ⟨m, hm, ?_⟩
    rw [readDigits, hd]
    rfl

/-- What is read from digits is what they write. -/
theorem writes_of_readDigits {base n : Nat} {cs : List Char} (large : 1 < base) (small : base ≤ 16)
    (nonempty : cs ≠ []) (h : readDigits base 0 cs = some n) : Writes base cs n := by
  induction cs using List.reverseRecOn generalizing n with
  | nil => exact absurd rfl nonempty
  | append_singleton cs c ih =>
    obtain ⟨m, d, hm, hd, rfl⟩ := readDigits_concat.mp h
    have digit := digitValue?_lt hd
    have lower := toLower_of_digitValue? small hd
    unfold Writes
    rw [List.map_append, List.map_singleton, lower]
    by_cases first : cs = []
    · subst first
      cases hm
      refine ⟨0, ?_⟩
      rw [Nat.zero_mul, Nat.zero_add, Nat.toDigits_of_lt_base digit]
      rfl
    · obtain ⟨zeros, front⟩ := ih first hm
      rw [front]
      by_cases none : m = 0
      · -- The zero that stands for nothing so far is one of the zeros before the number.
        subst none
        refine ⟨zeros + 1, ?_⟩
        rw [Nat.zero_mul, Nat.zero_add, Nat.toDigits_of_lt_base digit,
          Nat.toDigits_of_lt_base (by omega), List.replicate_succ']
        rfl
      · refine ⟨zeros, ?_⟩
        have step : base ≤ m * base + d :=
          Nat.le_trans (Nat.le_mul_of_pos_left base (Nat.pos_of_ne_zero none))
            (Nat.le_add_right _ _)
        rw [Nat.toDigits_of_base_le large step, List.append_assoc, Nat.mul_comm m base,
          Nat.mul_add_div (by omega), Nat.div_eq_of_lt digit, Nat.add_zero, Nat.mul_add_mod,
          Nat.mod_eq_of_lt digit]

/-- **Reading is writing backwards**: a text is read as the number that it writes. -/
theorem readNat?_eq_some_iff {base n : Nat} {text : List Char} (large : 1 < base)
    (small : base ≤ 16) : readNat? base text = some n ↔ Writes base text n := by
  refine ⟨fun h => ?_, readNat?_of_writes large small⟩
  obtain ⟨nonempty, h⟩ := Option.ite_none_left_eq_some.mp h
  exact writes_of_readDigits large small (by rwa [List.isEmpty_iff] at nonempty) h

theorem isHexDigit_of_digitValue? {base d : Nat} {c : Char} (h : digitValue? base c = some d) :
    c.isHexDigit = true := by
  have ranges : 48 ≤ c.toNat ∧ c.toNat ≤ 57 ∨ 97 ≤ c.toNat ∧ c.toNat ≤ 102 ∨
      65 ≤ c.toNat ∧ c.toNat ≤ 70 := by
    refine Decidable.byContradiction fun outside => ?_
    obtain ⟨small, _⟩ := Option.ite_none_right_eq_some.mp h
    rw [if_neg (fun g => outside (.inl g)), if_neg (fun g => outside (.inr (.inl g))),
      if_neg (fun g => outside (.inr (.inr g)))] at small
    exact absurd small (Nat.lt_irrefl _)
  unfold Char.isHexDigit Char.isDigit
  simp only [Bool.or_eq_true, Bool.and_eq_true, decide_eq_true_eq]
  rcases ranges with digit | lower | upper
  · exact .inl (.inl digit)
  · exact .inl (.inr lower)
  · exact .inr upper

theorem isHexDigit_of_readDigits {base acc n : Nat} {cs : List Char}
    (h : readDigits base acc cs = some n) : ∀ c ∈ cs, c.isHexDigit = true := by
  induction cs generalizing acc with
  | nil => exact fun _ hc => (by cases hc)
  | cons c cs ih =>
    rw [readDigits] at h
    cases hd : digitValue? base c with
    | none =>
      rw [hd] at h
      cases h
    | some d =>
      rw [hd] at h
      exact List.forall_mem_cons.mpr ⟨isHexDigit_of_digitValue? hd, ih h⟩

/-- A hexadecimal digit by its code point. -/
theorem toNat_of_isHexDigit {c : Char} (h : c.isHexDigit = true) :
    48 ≤ c.toNat ∧ c.toNat ≤ 57 ∨ 97 ≤ c.toNat ∧ c.toNat ≤ 102 ∨
      65 ≤ c.toNat ∧ c.toNat ≤ 70 := by
  unfold Char.isHexDigit Char.isDigit at h
  simp only [Bool.or_eq_true, Bool.and_eq_true, decide_eq_true_eq] at h
  exact or_assoc.mp h

/-- A digit is no blank. -/
theorem isBlank_of_isHexDigit {c : Char} (h : c.isHexDigit = true) : isBlank c = false := by
  have ranges := toNat_of_isHexDigit h
  unfold isBlank
  simp only [Bool.or_eq_false_iff, Bool.and_eq_false_iff, decide_eq_false_iff_not,
    beq_eq_false_iff_ne]
  omega

theorem isBlank_of_isDigit {c : Char} (h : isDigit c = true) : isBlank c = false :=
  isBlank_of_isHexDigit (isHexDigit_of_digitValue? (digitValue?_ten_iff.mpr ⟨h, rfl⟩))

namespace Writes

variable {base n : Nat} {text : List Char}

/-- What writes a number holds digits only. -/
theorem isHexDigit (h : Writes base text n) (large : 1 < base) (small : base ≤ 16) :
    ∀ c ∈ text, c.isHexDigit = true := by
  obtain ⟨_, h⟩ := Option.ite_none_left_eq_some.mp (readNat?_of_writes large small h)
  exact isHexDigit_of_readDigits h

theorem isBlank (h : Writes base text n) (large : 1 < base) (small : base ≤ 16) :
    ∀ c ∈ text, isBlank c = false := fun c hc =>
  isBlank_of_isHexDigit (h.isHexDigit large small c hc)

/-- Digits have no plus sign to drop. -/
theorem dropPlus_eq (h : Writes base text n) (large : 1 < base) (small : base ≤ 16) :
    dropPlus text = text := by
  unfold dropPlus
  split
  · exact absurd (h.isHexDigit large small '+' List.mem_cons_self) (by decide)
  · rfl

theorem readBelow?_eq (h : Writes base text n) (large : 1 < base) (small : base ≤ 16) {bound : Nat}
    (below : n < bound) : Text.readBelow? base bound text = some n := by
  unfold Text.readBelow?
  rw [h.dropPlus_eq large small, readNat?_of_writes large small h]
  exact if_pos below

theorem readU64?_eq (h : Writes base text n) (large : 1 < base) (small : base ≤ 16)
    (below : n < UInt64.size) : Text.readU64? base text = some (UInt64.ofNat n) := by
  unfold Text.readU64?
  rw [h.readBelow?_eq large small below]
  rfl

end Writes

/-! ## What is read -/

/-- The text writes the number in a base, after a plus sign or without one. -/
def WritesUnsigned (base : Nat) (text : List Char) (n : Nat) : Prop :=
  ∃ digits, (text = digits ∨ text = '+' :: digits) ∧ Writes base digits n

theorem readBelow?_eq_some_iff {base bound n : Nat} {text : List Char} (large : 1 < base)
    (small : base ≤ 16) :
    readBelow? base bound text = some n ↔ WritesUnsigned base text n ∧ n < bound := by
  have read : WritesUnsigned base text n ↔ readNat? base (dropPlus text) = some n := by
    rw [readNat?_eq_some_iff large small]
    constructor
    · rintro ⟨digits, rfl | rfl, h⟩
      · rwa [h.dropPlus_eq large small]
      · exact h
    · intro h
      unfold dropPlus at h
      split at h
      · exact ⟨_, .inr rfl, h⟩
      · exact ⟨text, .inl rfl, h⟩
  rw [read]
  unfold readBelow?
  cases readNat? base (dropPlus text) with
  | none => exact ⟨fun h => (by cases h), fun h => (by cases h.1)⟩
  | some m =>
    simp only [Option.ite_none_right_eq_some, Option.some.injEq]
    constructor
    · rintro ⟨below, rfl⟩
      exact ⟨rfl, below⟩
    · rintro ⟨rfl, below⟩
      exact ⟨below, rfl⟩

theorem readU32?_eq_some_iff {base : Nat} {text : List Char} {n : UInt32} (large : 1 < base)
    (small : base ≤ 16) : readU32? base text = some n ↔ WritesUnsigned base text n.toNat := by
  unfold readU32?
  simp only [Option.map_eq_some_iff, readBelow?_eq_some_iff large small]
  constructor
  · rintro ⟨_, ⟨h, below⟩, rfl⟩
    rwa [UInt32.toNat_ofNat_of_lt' below]
  · intro h
    exact ⟨n.toNat, ⟨h, n.toNat_lt_size⟩, UInt32.ofNat_toNat⟩

theorem readU64?_eq_some_iff {base : Nat} {text : List Char} {n : UInt64} (large : 1 < base)
    (small : base ≤ 16) : readU64? base text = some n ↔ WritesUnsigned base text n.toNat := by
  unfold readU64?
  simp only [Option.map_eq_some_iff, readBelow?_eq_some_iff large small]
  constructor
  · rintro ⟨_, ⟨h, below⟩, rfl⟩
    rwa [UInt64.toNat_ofNat_of_lt' below]
  · intro h
    exact ⟨n.toNat, ⟨h, n.toNat_lt_size⟩, UInt64.ofNat_toNat⟩

end GpuManagement.Text
