import GpuManagement.Proofs.Counter.Field
import GpuManagement.Proofs.Text.Numeral
import GpuManagement.Proofs.Text.Split

/-!
# What a format allows

The format of a field names its bits, and a field is placed where the format says. `Spans` is what a
text names, without a reader, and `FieldValue.placeOf_eq_ok_iff` says which texts are accepted: the
bits have to be in order, and the numbers have to fit a byte. The width of the word is not asked
for. A bit of a word is one of 64, so a format is accepted that names bits the word does not have.

`FormattedValue.isIntact_iff_hasRoom` says what comes of it. Values can be trusted to the word when
every field ends in it. That is also necessary, except for a field from the first bit on: what it
has beyond the word no value has either.
-/

namespace GpuManagement

open Text

/-! ## Numbers among blanks -/

namespace Text

/-- The text writes a number, with blanks around it or without. -/
def IsNumeral (text : List Char) (n : Nat) : Prop :=
  ∃ before digits after, text = before ++ digits ++ after ∧ WritesUnsigned 10 digits n ∧
    allBlank before = true ∧ allBlank after = true

theorem Writes.isNumeral {digits after : List Char} {n : Nat} (h : Writes 10 digits n)
    (blank : allBlank after = true) : IsNumeral (digits ++ after) n :=
  ⟨[], digits, after, rfl, ⟨digits, .inl rfl, h⟩, rfl, blank⟩

/-- What writes a number without sign holds hexadecimal digits and a plus sign at most. -/
theorem WritesUnsigned.mem {n : Nat} {text : List Char} (h : WritesUnsigned 10 text n) :
    ∀ c ∈ text, c = '+' ∨ c.isHexDigit = true := by
  obtain ⟨digits, rfl | rfl, writes⟩ := h
  · exact fun c hc => .inr (writes.isHexDigit (by decide) (by decide) c hc)
  · exact List.forall_mem_cons.mpr
      ⟨.inl rfl, fun c hc => .inr (writes.isHexDigit (by decide) (by decide) c hc)⟩

theorem WritesUnsigned.isTrimmed {n : Nat} {text : List Char} (h : WritesUnsigned 10 text n) :
    IsTrimmed text := by
  refine isTrimmed_of_none fun c hc => ?_
  rcases h.mem c hc with rfl | digit
  · decide
  · exact isBlank_of_isHexDigit digit

/-- A number among blanks holds no dash. -/
theorem IsNumeral.no_dash {n : Nat} {text : List Char} (h : IsNumeral text n) : '-' ∉ text := by
  obtain ⟨before, digits, after, rfl, writes, hb, ha⟩ := h
  have light : ∀ {cs : List Char}, allBlank cs = true → '-' ∉ cs := fun blank hc =>
    absurd (List.all_eq_true.mp blank '-' hc) (by decide)
  simp only [List.mem_append, not_or]
  refine ⟨⟨light hb, fun hc => ?_⟩, light ha⟩
  rcases writes.mem '-' hc with sign | digit
  · exact absurd sign (by decide)
  · exact absurd digit (by decide)

/-- A number of 32 bits is read from a text that writes it among blanks. -/
theorem readU32?_trim_eq_some_iff {text : List Char} {n : UInt32} :
    readU32? 10 (trim text) = some n ↔ IsNumeral text n.toNat := by
  rw [readU32?_eq_some_iff (by decide) (by decide)]
  constructor
  · intro writes
    obtain ⟨before, after, e, hb, ha⟩ := exists_around_trim text
    exact ⟨before, trim text, after, e, writes, hb, ha⟩
  · rintro ⟨before, digits, after, rfl, writes, hb, ha⟩
    rwa [trim_between hb writes.isTrimmed ha]

end Text

namespace FieldValue

variable {text word range low high : List Char} {first last : UInt32}

/-! ## The bits that a format names -/

/-- The text names the bits from the first to the last: after its first colon it has two numbers
with a dash between them, or one number for a single bit. -/
inductive Spans : List Char → Nat → Nat → Prop
  | range {word low high : List Char} {first last : Nat} (plain : ':' ∉ word)
      (begins : IsNumeral low first) (ends : IsNumeral high last) :
      Spans (word ++ ':' :: (low ++ '-' :: high)) first last
  | bit {word number : List Char} {bit : Nat} (plain : ':' ∉ word) (only : IsNumeral number bit) :
      Spans (word ++ ':' :: number) bit bit

/-- The two numbers that a format names, as far as they have 32 bits. -/
def numbers? (text : List Char) : Option (UInt32 × UInt32) :=
  match cut (· = ':') (trim text) with
  | none => none
  | some (_, range) =>
    let (first, last) := (cut (· = '-') range).getD (range, range)
    match readU32? 10 (trim first), readU32? 10 (trim last) with
    | some first, some last => some (first, last)
    | _, _ => none

/-- A format is refused when it names no two numbers, and when these are no range for a byte. -/
theorem placeOf_eq (text : List Char) :
    placeOf text =
      match numbers? text with
      | none => .error (.malformed "perf format" (.content text))
      | some (first, last) =>
        if last.toNat < first.toNat ∨ 0xFF < last.toNat ∨ 0xFF < last.toNat - first.toNat + 1 then
          .fail .unexpectedSize
        else .ok (first.toUInt8, (last - first + 1).toUInt8) := by
  unfold placeOf numbers?
  cases cut (· = ':') (trim text) with
  | none => rfl
  | some parts =>
    dsimp only
    cases readU32? 10 (trim ((cut (· = '-') parts.2).getD (parts.2, parts.2)).1) with
    | none => rfl
    | some first =>
      cases readU32? 10 (trim ((cut (· = '-') parts.2).getD (parts.2, parts.2)).2) with
      | none => rfl
      | some last => rfl

theorem cut_colon (plain : ':' ∉ word) (range : List Char) :
    cut (· = ':') (trim (word ++ ':' :: range)) = some (trimStart word, trimEnd range) := by
  have plain : ':' ∉ trimStart word := fun hc => plain ((List.dropWhile_suffix _).subset hc)
  rw [trim_append_cons (by decide), cut_at_append plain]

theorem numbers?_of_no_colon (plain : ':' ∉ text) : numbers? text = none := by
  obtain ⟨before, after, e, _, _⟩ := exists_around_trim text
  have plain : ':' ∉ trim text := fun hc =>
    plain (e ▸ List.mem_append_left _ (List.mem_append_right _ hc))
  unfold numbers?
  rw [cut_at_of_not_mem plain]

theorem numbers?_range (plain : ':' ∉ word) (dash : '-' ∉ low) (high : List Char) :
    numbers? (word ++ ':' :: (low ++ '-' :: high)) = some (first, last) ↔
      IsNumeral low first.toNat ∧ IsNumeral high last.toNat := by
  rw [← readU32?_trim_eq_some_iff, ← readU32?_trim_eq_some_iff]
  unfold numbers?
  rw [cut_colon plain, trimEnd_append_cons (by decide)]
  simp only [cut_at_append dash, Option.getD_some, trim_trimEnd]
  cases readU32? 10 (trim low) <;> cases readU32? 10 (trim high) <;> simp

theorem numbers?_bit (plain : ':' ∉ word) (dash : '-' ∉ range) :
    numbers? (word ++ ':' :: range) = some (first, last) ↔
      first = last ∧ IsNumeral range first.toNat := by
  obtain ⟨after, e, _⟩ := exists_trimEnd_append range
  have dash : '-' ∉ trimEnd range := fun hc => dash (e ▸ List.mem_append_left _ hc)
  rw [← readU32?_trim_eq_some_iff]
  unfold numbers?
  rw [cut_colon plain]
  simp only [cut_at_of_not_mem dash, Option.getD_none, trim_trimEnd]
  cases readU32? 10 (trim range) with
  | none => simp
  | some n =>
    simp only [Option.some.injEq, Prod.mk.injEq]
    constructor
    · rintro ⟨rfl, rfl⟩
      exact ⟨rfl, rfl⟩
    · rintro ⟨rfl, rfl⟩
      exact ⟨rfl, rfl⟩

/-- **The numbers of a format are read from every text that names them**, and from no other. -/
theorem numbers?_eq_some_iff :
    numbers? text = some (first, last) ↔ Spans text first.toNat last.toNat := by
  constructor
  · intro h
    by_cases colon : ':' ∈ text
    · obtain ⟨word, range, rfl, plain⟩ := List.eq_append_cons_of_mem colon
      by_cases dash : '-' ∈ range
      · obtain ⟨low, high, rfl, before⟩ := List.eq_append_cons_of_mem dash
        obtain ⟨begins, ends⟩ := (numbers?_range plain before high).mp h
        exact .range plain begins ends
      · obtain ⟨rfl, only⟩ := (numbers?_bit plain dash).mp h
        exact .bit plain only
    · rw [numbers?_of_no_colon colon] at h
      cases h
  · intro h
    generalize hf : first.toNat = a at h
    generalize hl : last.toNat = b at h
    cases h with
    | range plain begins ends =>
      exact (numbers?_range plain begins.no_dash _).mpr ⟨hf ▸ begins, hl ▸ ends⟩
    | bit plain only =>
      exact (numbers?_bit plain only.no_dash).mpr
        ⟨UInt32.toNat_inj.mp (hf.trans hl.symm), hf ▸ only⟩

/-- The numbers of a format that are small enough are kept as they are. -/
theorem toNat_place (first last : UInt32) (ordered : first.toNat ≤ last.toNat)
    (high : last.toNat ≤ 0xFF) (few : last.toNat - first.toNat + 1 ≤ 0xFF) :
    first.toUInt8.toNat = first.toNat ∧
      (last - first + 1).toUInt8.toNat = last.toNat - first.toNat + 1 := by
  constructor
  · rw [UInt32.toNat_toUInt8]
    omega
  · rw [UInt32.toNat_toUInt8, UInt32.toNat_add,
      UInt32.toNat_sub_of_le _ _ (UInt32.le_iff_toNat_le.mpr ordered)]
    show (last.toNat - first.toNat + 1) % 2 ^ 32 % 2 ^ 8 = _
    omega

/-- **The accepted formats**: a text is accepted when it names a first bit and a last one that is
not before it, and the last bit and the number of bits fit a byte. Its place is what it names. -/
theorem placeOf_eq_ok_iff {start size : UInt8} :
    placeOf text = .ok (start, size) ↔
      ∃ last, Spans text start.toNat last ∧ start.toNat ≤ last ∧ last ≤ 0xFF ∧
        size.toNat = last - start.toNat + 1 := by
  rw [placeOf_eq]
  constructor
  · intro h
    cases named : numbers? text with
    | none =>
      rw [named] at h
      cases h
    | some numbers =>
      obtain ⟨first, last⟩ := numbers
      rw [named] at h
      dsimp only at h
      split at h
      · cases h
      rename_i small
      obtain ⟨begins, count⟩ := toNat_place first last (by omega) (by omega) (by omega)
      cases h
      rw [begins, count]
      exact ⟨last.toNat, numbers?_eq_some_iff.mp named, by omega, by omega, rfl⟩
  · rintro ⟨last, spans, ordered, high, count⟩
    have few : size.toNat < 256 := size.toNat_lt
    have begins : (UInt32.ofNat start.toNat).toNat = start.toNat :=
      UInt32.toNat_ofNat_of_lt' (Nat.lt_trans start.toNat_lt (by decide))
    have ends : (UInt32.ofNat last).toNat = last :=
      UInt32.toNat_ofNat_of_lt' (Nat.lt_of_le_of_lt high (by decide))
    have named : numbers? text = some (UInt32.ofNat start.toNat, UInt32.ofNat last) := by
      rw [numbers?_eq_some_iff, begins, ends]
      exact spans
    obtain ⟨first_eq, size_eq⟩ := toNat_place (UInt32.ofNat start.toNat)
      (UInt32.ofNat last) (by omega) (by omega) (by omega)
    have first_eq : (UInt32.ofNat start.toNat).toUInt8 = start :=
      UInt8.toNat_inj.mp (first_eq.trans begins)
    have size_eq : (UInt32.ofNat last - UInt32.ofNat start.toNat + 1).toUInt8 = size :=
      UInt8.toNat_inj.mp (by omega)
    rw [named]
    dsimp only
    rw [if_neg (by omega), first_eq, size_eq]

/-- The formats that are refused for their size name bits in the wrong order, a bit that no byte
counts, or all bits that a byte counts. -/
theorem placeOf_eq_unexpectedSize_iff :
    placeOf text = .fail .unexpectedSize ↔
      ∃ first last : UInt32, Spans text first.toNat last.toNat ∧
        (last.toNat < first.toNat ∨ 0xFF < last.toNat ∨ 0xFF < last.toNat - first.toNat + 1) := by
  simp only [← numbers?_eq_some_iff]
  rw [placeOf_eq]
  cases named : numbers? text with
  | none => simp [Outcome.fail]
  | some numbers =>
    obtain ⟨first, last⟩ := numbers
    dsimp only
    split
    · rename_i wrong
      exact ⟨fun _ => ⟨first, last, rfl, wrong⟩, fun _ => rfl⟩
    · rename_i right
      constructor
      · intro h
        cases h
      · rintro ⟨_, _, ⟨⟩, wrong⟩
        exact absurd wrong right

end FieldValue

/-! ## Fields with a format -/

/-- A format that is accepted, with the place that it gives. -/
structure FieldFormat where
  text : List Char
  start : UInt8
  size : UInt8
  placed : FieldValue.placeOf text = .ok (start, size)

/-- A value for the field of a format. -/
structure FormattedValue where
  format : FieldFormat
  value : UInt64

namespace FieldFormat

variable {text : List Char}

/-- The field ends within the word of 64 bits. -/
def IsInWord (f : FieldFormat) : Prop := f.start.toNat + f.size.toNat ≤ 64

/-- The field is where its text says, up to a last bit: it has all bits that are named, at least one,
and it is in the word when the last one is. -/
structure IsPlaced (f : FieldFormat) (last : Nat) : Prop where
  spans : FieldValue.Spans f.text f.start.toNat last
  byte : last ≤ 0xFF
  positive : 1 ≤ f.size.toNat
  ends : f.start.toNat + f.size.toNat = last + 1
  inWord_iff : f.IsInWord ↔ last < 64

theorem exists_isPlaced (f : FieldFormat) : ∃ last, f.IsPlaced last := by
  obtain ⟨last, spans, ordered, byte, count⟩ := FieldValue.placeOf_eq_ok_iff.mp f.placed
  have ends : f.start.toNat + f.size.toNat = last + 1 := by omega
  refine ⟨last, spans, byte, by omega, ends, ?_⟩
  unfold IsInWord
  omega

theorem size_pos (f : FieldFormat) : 1 ≤ f.size.toNat := by
  obtain ⟨_, placed⟩ := f.exists_isPlaced
  exact placed.positive

/-- The texts of formats name bits in order, of which a byte counts the last one and their number. -/
theorem exists_text_iff :
    (∃ f : FieldFormat, f.text = text) ↔
      ∃ first last, FieldValue.Spans text first last ∧ first ≤ last ∧ last ≤ 0xFF ∧
        last - first + 1 ≤ 0xFF := by
  constructor
  · rintro ⟨f, rfl⟩
    obtain ⟨last, spans, ordered, byte, count⟩ := FieldValue.placeOf_eq_ok_iff.mp f.placed
    have few : f.size.toNat < 256 := f.size.toNat_lt
    exact ⟨_, last, spans, ordered, byte, by omega⟩
  · rintro ⟨first, last, spans, ordered, byte, few⟩
    have begins : (UInt8.ofNat first).toNat = first :=
      UInt8.toNat_ofNat_of_lt' (Nat.lt_of_le_of_lt (Nat.le_trans ordered byte) (by decide))
    have count : (UInt8.ofNat (last - first + 1)).toNat = last - first + 1 :=
      UInt8.toNat_ofNat_of_lt' (Nat.lt_of_le_of_lt few (by decide))
    have placed : FieldValue.placeOf text =
        .ok (UInt8.ofNat first, UInt8.ofNat (last - first + 1)) := by
      rw [FieldValue.placeOf_eq_ok_iff, begins, count]
      exact ⟨last, spans, ordered, byte, rfl⟩
    exact ⟨⟨text, _, _, placed⟩, rfl⟩

end FieldFormat

namespace FormattedValue

variable {f g : FormattedValue} {fields : List FormattedValue} {i : Nat}

/-- The value and the bit that it begins at, as the word is made of them. -/
def toFieldValue (f : FormattedValue) : FieldValue := ⟨f.value, f.format.start⟩

/-- The value has a one for the bit of the word. -/
def Sets (f : FormattedValue) (i : Nat) : Prop :=
  f.format.start.toNat ≤ i ∧ f.value.toNat.testBit (i - f.format.start.toNat) = true

/-- The value has no more bits than the field. -/
def Fits (f : FormattedValue) : Prop := f.value.toNat < 2 ^ f.format.size.toNat

/-- One field ends before the other begins. -/
def Apart (f g : FormattedValue) : Prop :=
  f.format.start.toNat + f.format.size.toNat ≤ g.format.start.toNat ∨
    g.format.start.toNat + g.format.size.toNat ≤ f.format.start.toNat

/-- The configuration word of some fields. -/
def word (fields : List FormattedValue) : UInt64 := FieldValue.assemble (fields.map toFieldValue)

/-- The word takes the values as they are: no shift leaves it, all bits of a value that fits its
field are in it, nothing else is, and a value whose field is apart from the others is read back. -/
structure IsIntact (fields : List FormattedValue) : Prop where
  shift : ∀ f ∈ fields, f.format.start.toNat < 64
  kept : ∀ f ∈ fields, f.Fits → ∀ i, f.Sets i → (word fields).toNat.testBit i = true
  only : ∀ i, (word fields).toNat.testBit i = true → ∃ f ∈ fields, f.Sets i
  readBack : ∀ f ∈ fields, (∀ g ∈ fields, g.Fits ∧ (g = f ∨ g.Apart f)) →
    ((word fields).toNat >>> f.format.start.toNat) % 2 ^ f.format.size.toNat = f.value.toNat

/-- A value that fits sets bits of its field only. -/
theorem Fits.lt_of_sets (fits : f.Fits) (set : f.Sets i) :
    i < f.format.start.toNat + f.format.size.toNat := by
  refine Nat.lt_of_not_le fun beyond => ?_
  have room : f.value.toNat < 2 ^ (i - f.format.start.toNat) :=
    Nat.lt_of_lt_of_le fits (Nat.pow_le_pow_right (by decide) (by omega))
  rw [Sets, Nat.testBit_lt_two_pow room] at set
  exact Bool.false_ne_true set.2

theorem testBit_word (inside : ∀ f ∈ fields, f.format.start.toNat < 64) :
    (word fields).toNat.testBit i = true ↔ i < 64 ∧ ∃ f ∈ fields, f.Sets i := by
  have inside : ∀ f ∈ fields.map toFieldValue, f.start.toNat < 64 :=
    List.forall_mem_map.mpr inside
  unfold word
  rw [FieldValue.testBit_assemble inside]
  simp only [List.mem_map, exists_exists_and_eq_and]
  exact Iff.rfl

end FormattedValue

/-! ## Room for every value -/

namespace FieldFormat

/-- The word has room for every value of the field: the field is in the word, or it begins with the
first bit, so that only bits above the word are missing, which no value has. -/
def HasRoom (f : FieldFormat) : Prop := f.IsInWord ∨ f.start = 0

theorem HasRoom.start_lt {f : FieldFormat} (room : f.HasRoom) : f.start.toNat < 64 := by
  rcases room with inWord | first
  · have := f.size_pos
    unfold IsInWord at inWord
    omega
  · rw [first]
    decide

end FieldFormat

namespace FormattedValue

variable {f g : FormattedValue} {fields : List FormattedValue} {i : Nat}

theorem Fits.lt_of_hasRoom (fits : f.Fits) (room : f.format.HasRoom) (set : f.Sets i) : i < 64 := by
  rcases room with inWord | first
  · exact Nat.lt_of_lt_of_le (fits.lt_of_sets set) inWord
  · rw [Sets, first] at set
    exact FieldValue.lt_of_testBit set.2

/-- Fields that have room make a word that takes their values as they are. -/
theorem isIntact_of_hasRoom (room : ∀ f ∈ fields, f.format.HasRoom) : IsIntact fields := by
  have inside : ∀ f ∈ fields, f.format.start.toNat < 64 := fun f hf => (room f hf).start_lt
  have kept : ∀ f ∈ fields, f.Fits → ∀ i, f.Sets i → (word fields).toNat.testBit i = true :=
    fun f hf fits i set => (testBit_word inside).mpr ⟨fits.lt_of_hasRoom (room f hf) set, f, hf, set⟩
  refine ⟨inside, kept, fun i h => ((testBit_word inside).mp h).2, fun f hf alone => ?_⟩
  refine FieldValue.slice_eq (alone f hf).1 fun i within => ?_
  rw [Bool.eq_iff_iff]
  constructor
  · -- a field that is apart has no say in a bit of this one
    intro h
    obtain ⟨g, hg, set⟩ := ((testBit_word inside).mp h).2
    obtain ⟨fits, rfl | apart⟩ := alone g hg
    · rw [Sets, Nat.add_sub_cancel_left] at set
      exact set.2
    · have low := set.1
      have high := fits.lt_of_sets set
      rcases apart with before | after <;> omega
  · intro set
    refine kept f hf (alone f hf).1 _ ⟨Nat.le_add_right _ _, ?_⟩
    rwa [Nat.add_sub_cancel_left]

/-- The value that has only the highest bit of its field, or of the word where the field is larger. -/
def top (f : FieldFormat) : FormattedValue := ⟨f, UInt64.ofNat (2 ^ (min f.size.toNat 64 - 1))⟩

theorem toNat_top (f : FieldFormat) : (top f).value.toNat = 2 ^ (min f.size.toNat 64 - 1) := by
  have small : 2 ^ (min f.size.toNat 64 - 1) < 2 ^ 64 :=
    Nat.pow_lt_pow_right (by decide) (by omega)
  exact UInt64.toNat_ofNat_of_lt' small

theorem fits_top (f : FieldFormat) : (top f).Fits := by
  have pos := f.size_pos
  unfold Fits
  rw [toNat_top]
  refine Nat.pow_lt_pow_right (by decide) ?_
  show min f.size.toNat 64 - 1 < f.size.toNat
  omega

theorem sets_top (f : FieldFormat) : (top f).Sets (f.start.toNat + (min f.size.toNat 64 - 1)) := by
  refine ⟨Nat.le_add_right _ _, ?_⟩
  show (top f).value.toNat.testBit (f.start.toNat + (min f.size.toNat 64 - 1) - f.start.toNat) = true
  rw [toNat_top, Nat.add_sub_cancel_left, Nat.testBit_two_pow_self]

/-- Where the highest value of a field is in the word, the word has room for the field. -/
theorem hasRoom_of_isIntact (intact : IsIntact fields) {f : FieldFormat} (hf : top f ∈ fields) :
    f.HasRoom := by
  have pos := f.size_pos
  have inside : f.start.toNat < 64 := intact.shift _ hf
  have high := FieldValue.lt_of_testBit (intact.kept _ hf (fits_top f) _ (sets_top f))
  unfold FieldFormat.HasRoom FieldFormat.IsInWord
  rw [← UInt8.toNat_inj, UInt8.toNat_zero]
  omega

/-- **When values can be trusted to a word**: formats are accepted for the bits that a byte counts. A
field is where its format says, with one bit at least, and in the word when the last bit that is
named is. Words take all values of some formats as they are when each format has room, and only
then. -/
theorem isIntact_iff_hasRoom (formats : List FieldFormat) :
    (∀ text, (∃ f : FieldFormat, f.text = text) ↔
      ∃ first last, FieldValue.Spans text first last ∧ first ≤ last ∧ last ≤ 0xFF ∧
        last - first + 1 ≤ 0xFF) ∧
      (∀ f ∈ formats, ∃ last, f.IsPlaced last) ∧
      ((∀ fields, fields.map format = formats → IsIntact fields) ↔ ∀ f ∈ formats, f.HasRoom) := by
  refine ⟨fun _ => FieldFormat.exists_text_iff, fun f _ => f.exists_isPlaced, ?_⟩
  constructor
  · intro intact f hf
    have same : (formats.map top).map format = formats := by
      rw [List.map_map]
      exact List.map_id _
    exact hasRoom_of_isIntact (intact _ same) (List.mem_map_of_mem hf)
  · rintro room fields rfl
    exact isIntact_of_hasRoom (List.forall_mem_map.mp room)

/-- Not every place that a format gives is in the word: the bit after the last one is accepted. -/
theorem placeOf_beyond_word :
    ¬ ∀ text start size, FieldValue.placeOf text = .ok (start, size) →
      1 ≤ size.toNat ∧ start.toNat + size.toNat ≤ 64 := by
  intro always
  have accepted : FieldValue.placeOf "config:64".toList = .ok (64, 1) := by decide +kernel
  exact absurd (always _ _ _ accepted).2 (by decide)

end FormattedValue

end GpuManagement
