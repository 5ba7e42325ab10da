import GpuManagement.Counter.Basic
import GpuManagement.Proofs.Counter.Format
import GpuManagement.Proofs.Data.Outcome
import Mathlib.Data.List.Pairwise

/-!
# The word that configures a counter

The files of a group describe the configuration of an event: one lists the values of its fields,
and one for each field gives the field its place. `Counter.Describes` is what such files say, as a
relation of their texts to a list of `PlacedField`s. Fields whose places are apart can all be read
back from the word that is made of them, and nothing else is in it
(`Counter.isAssembled_request`).

A bit of the word is set when some field sets it (`testBit_assemble`), and that is all there is to
the word. So the order of the fields is of no consequence, and of fields that are apart only one has
a say in a bit.

Files of which nothing is known still give a word of values whose formats were accepted
(`Counter.exists_word_of_request`), for which `FormattedValue.isIntact_iff_hasRoom` says when it can
be trusted.
-/

namespace GpuManagement

open Text

/-! ## Fields and their places -/

/-- A name that assignments can be told apart by. -/
def IsFieldName (name : List Char) : Prop :=
  name ≠ [] ∧ ',' ∉ name ∧ '=' ∉ name ∧ IsTrimmed name

instance (name : List Char) : Decidable (IsFieldName name) :=
  inferInstanceAs (Decidable (_ ∧ _ ∧ _ ∧ _))

/-- A field of a word of 64 bits, with a value that it has room for. -/
structure PlacedField where
  name : List Char
  value : Nat
  /-- The lowest bit. -/
  first : Nat
  /-- The highest bit. -/
  last : Nat
  isName : IsFieldName name
  ordered : first ≤ last
  inWord : last < 64
  fits : value < 2 ^ (last + 1 - first)

namespace PlacedField

variable {f g : PlacedField} {fields : List PlacedField} {i : Nat}

/-- The number of bits. -/
def size (f : PlacedField) : Nat := f.last + 1 - f.first

/-- The bit belongs to the field. -/
def Covers (f : PlacedField) (i : Nat) : Prop := f.first ≤ i ∧ i ≤ f.last

/-- One field ends before the other begins. -/
def Apart (f g : PlacedField) : Prop := f.last < g.first ∨ g.last < f.first

instance (f g : PlacedField) : Decidable (Apart f g) := inferInstanceAs (Decidable (_ ∨ _))

instance : Std.Symm Apart := ⟨fun _ _ => Or.symm⟩

/-- The value of the field has a one for the bit. -/
def Sets (f : PlacedField) (i : Nat) : Prop :=
  f.first ≤ i ∧ f.value.testBit (i - f.first) = true

theorem first_lt (f : PlacedField) : f.first < 64 := Nat.lt_of_le_of_lt f.ordered f.inWord

theorem value_lt (f : PlacedField) : f.value < 2 ^ f.size := f.fits

theorem value_lt_word (f : PlacedField) : f.value < UInt64.size := by
  have bits : f.size ≤ 64 := by
    have := f.inWord
    unfold size
    omega
  exact Nat.lt_of_lt_of_le f.value_lt (Nat.pow_le_pow_right (by decide) bits)

/-- A value sets no bit but those of its field. -/
theorem Sets.covers (h : f.Sets i) : f.Covers i := by
  refine ⟨h.1, Nat.le_of_not_lt fun beyond => ?_⟩
  have room : f.value < 2 ^ (i - f.first) :=
    Nat.lt_of_lt_of_le f.value_lt (Nat.pow_le_pow_right (by decide) (by unfold size; omega))
  rw [Sets, Nat.testBit_lt_two_pow room] at h
  exact Bool.false_ne_true h.2

/-- Of fields that are apart a bit belongs to one at most. -/
theorem eq_of_covers (apart : fields.Pairwise Apart) (hf : f ∈ fields) (hg : g ∈ fields)
    (h : f.Covers i) (h' : g.Covers i) : f = g := by
  by_contra other
  rcases apart.forall hf hg other with before | after
  · exact absurd (Nat.le_trans h'.1 h.2) (Nat.not_le_of_lt before)
  · exact absurd (Nat.le_trans h.1 h'.2) (Nat.not_le_of_lt after)

/-! ## The word -/

/-- The value of a field and the bit that it begins at, as the word is made of them. -/
def toFieldValue (f : PlacedField) : FieldValue := ⟨UInt64.ofNat f.value, UInt8.ofNat f.first⟩

theorem toNat_start_toFieldValue (f : PlacedField) : f.toFieldValue.start.toNat = f.first :=
  UInt8.toNat_ofNat_of_lt' (Nat.lt_trans f.first_lt (by decide))

theorem sets_toFieldValue : f.toFieldValue.Sets i ↔ f.Sets i := by
  unfold FieldValue.Sets Sets
  rw [toNat_start_toFieldValue,
    show f.toFieldValue.value.toNat = f.value from UInt64.toNat_ofNat_of_lt' f.value_lt_word]

/-- **A bit of the word is set when a field sets it.** -/
theorem testBit_assemble :
    (FieldValue.assemble (fields.map toFieldValue)).toNat.testBit i = true ↔
      ∃ f ∈ fields, f.Sets i := by
  have inside : ∀ f ∈ fields.map toFieldValue, f.start.toNat < 64 := by
    refine List.forall_mem_map.mpr fun f _ => ?_
    rw [toNat_start_toFieldValue]
    exact f.first_lt
  rw [FieldValue.testBit_assemble inside]
  simp only [List.mem_map, exists_exists_and_eq_and, sets_toFieldValue]
  refine and_iff_right_of_imp ?_
  rintro ⟨f, _, set⟩
  exact Nat.lt_of_le_of_lt set.covers.2 f.inWord

/-- The word holds the value of each field at its place, and nothing outside the places. -/
structure IsAssembled (fields : List PlacedField) (word : UInt64) : Prop where
  value : ∀ f ∈ fields, (word.toNat >>> f.first) % 2 ^ f.size = f.value
  outside : ∀ i, (∀ f ∈ fields, ¬ f.Covers i) → word.toNat.testBit i = false

/-- Fields that are apart are all read back from their word. -/
theorem isAssembled_assemble (apart : fields.Pairwise Apart) :
    IsAssembled fields (FieldValue.assemble (fields.map toFieldValue)) where
  value := by
    intro f hf
    refine FieldValue.slice_eq f.value_lt fun i within => ?_
    have here : f.Covers (f.first + i) := by
      unfold Covers
      unfold size at within
      omega
    -- no other field has a say in a bit of this one
    have own : (∃ g ∈ fields, g.Sets (f.first + i)) ↔ f.Sets (f.first + i) := by
      constructor
      · rintro ⟨g, hg, set⟩
        exact eq_of_covers apart hf hg here set.covers ▸ set
      · exact fun set => ⟨f, hf, set⟩
    rw [Bool.eq_iff_iff, testBit_assemble, own, Sets, Nat.add_sub_cancel_left]
    exact and_iff_right (Nat.le_add_right _ _)
  outside := by
    intro i none_covers
    refine Bool.eq_false_iff.mpr fun set => ?_
    obtain ⟨f, hf, set⟩ := testBit_assemble.mp set
    exact none_covers f hf set.covers

/-- The order of the fields is of no consequence. -/
theorem assemble_perm {others : List PlacedField} (perm : others.Perm fields) :
    FieldValue.assemble (others.map toFieldValue) =
      FieldValue.assemble (fields.map toFieldValue) := by
  refine UInt64.toNat_inj.mp (Nat.eq_of_testBit_eq fun i => ?_)
  rw [Bool.eq_iff_iff, testBit_assemble, testBit_assemble]
  simp only [perm.mem_iff]

/-! ## What the files say -/

/-- A text that assigns the field its value: `name=0x…`, or the name alone for one. -/
inductive Assigns (f : PlacedField) : List Char → Prop
  | value (digits : List Char) (writes : Writes 16 digits f.value) :
      Assigns f (f.name ++ '=' :: '0' :: 'x' :: digits)
  | name (one : f.value = 1) : Assigns f f.name

/-- A text that gives the field its place: `word:first-last`, or `word:bit` for a single bit. -/
inductive Places (f : PlacedField) : List Char → Prop
  | range (word first last after : List Char) (plain : ':' ∉ word)
      (begins : Writes 10 first f.first) (ends : Writes 10 last f.last)
      (blank : allBlank after = true) :
      Places f (word ++ ':' :: (first ++ '-' :: last) ++ after)
  | bit (word bit after : List Char) (plain : ':' ∉ word) (only : f.first = f.last)
      (writes : Writes 10 bit f.first) (blank : allBlank after = true) :
      Places f (word ++ ':' :: bit ++ after)

variable {text piece : List Char}

/-! ## Reading assignments -/

namespace Assigns

/-- An assignment is a piece of its own, and is read as the name and the value. -/
theorem assignment_eq (h : f.Assigns piece) :
    FieldValue.assignment piece = .ok (f.name, UInt64.ofNat f.value) := by
  obtain ⟨_, _, plain, trimmed⟩ := f.isName
  unfold FieldValue.assignment
  cases h with
  | value digits writes =>
    have marked : IsTrimmed ('0' :: 'x' :: digits) := by
      refine isTrimmed_of_none (List.forall_mem_cons.mpr ⟨by decide, ?_⟩)
      exact List.forall_mem_cons.mpr ⟨by decide, writes.isBlank (by decide) (by decide)⟩
    have number : Files.hexNumber? ('0' :: 'x' :: digits) = some (UInt64.ofNat f.value) := by
      unfold Files.hexNumber?
      rw [trim_of_isTrimmed marked]
      exact writes.readU64?_eq (by decide) (by decide) f.value_lt_word
    rw [cut_at_append plain]
    simp only [Option.getD_some, number, trim_of_isTrimmed trimmed]
  | name one =>
    have number : Files.hexNumber? ['1'] = some 1 := by decide
    rw [cut_at_of_not_mem plain]
    simp only [Option.getD_none, number, trim_of_isTrimmed trimmed, one]
    rfl

theorem ne_nil (h : f.Assigns piece) : piece ≠ [] := by
  cases h with
  | value _ _ => exact List.append_ne_nil_of_left_ne_nil f.isName.1 _
  | name _ => exact f.isName.1

theorem isTrimmed (h : f.Assigns piece) : IsTrimmed piece := by
  obtain ⟨nonempty, _, _, trimmed⟩ := f.isName
  cases h with
  | value digits writes =>
    have marked : IsTrimmed ('=' :: '0' :: 'x' :: digits) := by
      refine isTrimmed_of_none ?_
      simp only [List.forall_mem_cons]
      exact ⟨by decide, by decide, by decide, writes.isBlank (by decide) (by decide)⟩
    have h : IsTrimmed (f.name ++ [] ++ '=' :: '0' :: 'x' :: digits) :=
      trimmed.append nonempty marked (List.cons_ne_nil _ _)
    rwa [List.append_nil] at h
  | name _ => exact trimmed

theorem no_comma (h : f.Assigns piece) : ∀ c ∈ piece, decide (c = ',') = false := by
  have name : ∀ c ∈ f.name, c ≠ ',' := fun c hc => ne_of_mem_of_not_mem hc f.isName.2.1
  have plain : ∀ c ∈ piece, c ≠ ',' := by
    cases h with
    | value digits writes =>
      have marked : ∀ c ∈ digits, c ≠ ',' := by
        rintro c hc rfl
        exact absurd (writes.isHexDigit (by decide) (by decide) ',' hc) (by decide)
      refine List.forall_mem_append.mpr ⟨name, ?_⟩
      simp only [List.forall_mem_cons]
      exact ⟨by decide, by decide, by decide, marked⟩
    | name _ => exact name
  exact fun c hc => decide_eq_false (plain c hc)

end Assigns

/-- Assignments that commas separate are read in their order. -/
theorem assignments_eq {before after : List Char} {pieces : List (List Char)}
    (hb : allBlank before = true) (ha : allBlank after = true)
    (assigned : List.Forall₂ Assigns fields pieces) :
    FieldValue.assignments (before ++ joinWith [','] pieces ++ after) =
      .ok (fields.map fun f => (f.name, UInt64.ofNat f.value)) := by
  have each : ∀ piece ∈ pieces, (piece ≠ [] ∧ IsTrimmed piece) ∧
      ∀ c ∈ piece, decide (c = ',') = false := by
    induction assigned with
    | nil => exact fun _ hp => (by cases hp)
    | cons h _ ih =>
      exact List.forall_mem_cons.mpr ⟨⟨⟨h.ne_nil, h.isTrimmed⟩, h.no_comma⟩, ih⟩
  have trimmed : IsTrimmed (joinWith [','] pieces) :=
    isTrimmed_joinWith fun piece hp => (each piece hp).1
  have cut_up : (splitWhere (· = ',') (joinWith [','] pieces)).filter (fun piece => piece ≠ []) =
      pieces := by
    cases pieces with
    | nil => rfl
    | cons piece rest =>
      rw [splitWhere_joinWith (decide_eq_true rfl) (List.cons_ne_nil _ _)
        fun piece hp => (each piece hp).2]
      exact List.filter_eq_self.mpr fun piece hp => decide_eq_true (each piece hp).1.1
  unfold FieldValue.assignments
  rw [trim_between hb trimmed ha, cut_up, Outcome.mapM_eq_ok_iff, List.map_map]
  clear each trimmed cut_up
  induction assigned with
  | nil => rfl
  | cons first _ ih =>
    rw [List.map_cons, List.map_cons, first.assignment_eq, ih]
    rfl

/-! ## Reading places -/

/-- A text that gives the field its place names its bits. -/
theorem Places.spans (h : f.Places text) : FieldValue.Spans text f.first f.last := by
  cases h with
  | range word first last after plain begins ends blank =>
    have e : word ++ ':' :: (first ++ '-' :: last) ++ after =
        word ++ ':' :: (first ++ '-' :: (last ++ after)) := by simp
    rw [e]
    exact .range plain (List.append_nil first ▸ begins.isNumeral rfl) (ends.isNumeral blank)
  | bit word bit after plain only writes blank =>
    rw [← only, List.append_assoc, List.cons_append]
    exact .bit plain (writes.isNumeral blank)

theorem Places.placeOf_eq (h : f.Places text) :
    FieldValue.placeOf text = .ok (UInt8.ofNat f.first, UInt8.ofNat f.size) := by
  have ordered := f.ordered
  have inWord := f.inWord
  have begins : (UInt8.ofNat f.first).toNat = f.first := toNat_start_toFieldValue f
  have count : (UInt8.ofNat f.size).toNat = f.last - f.first + 1 := by
    have size : f.size = f.last - f.first + 1 := by
      unfold PlacedField.size
      omega
    rw [size]
    exact UInt8.toNat_ofNat_of_lt' (Nat.lt_of_lt_of_le (by omega) (by decide : 65 ≤ UInt8.size))
  refine FieldValue.placeOf_eq_ok_iff.mpr ⟨f.last, ?_⟩
  rw [begins, count]
  exact ⟨h.spans, ordered, by omega, rfl⟩

end PlacedField

namespace Counter

variable {c : Counter} {t : Tree} {fields : List PlacedField} {kind : Nat}

/-- The files of a counter describe its event: one lists an assignment to each of the fields, one
for each field has its place, and one has the number of the kind of counter. -/
structure Describes (c : Counter) (t : Tree) (fields : List PlacedField) (kind : Nat) : Prop where
  event : ∃ file before pieces after, EventGroup.fileOfEvent? c.event = some file ∧
    Files.readText t ((c.directory.child "events").child file) =
      .ok (before ++ joinWith [','] pieces ++ after) ∧
    List.Forall₂ PlacedField.Assigns fields pieces ∧
    allBlank before = true ∧ allBlank after = true
  place : ∀ f ∈ fields, ∃ text,
    Files.readText t ((c.directory.child "format").join (String.ofList f.name)) = .ok text ∧
    f.Places text
  kind : ∃ before digits after,
    Files.readText t (c.directory.child "type") = .ok (before ++ digits ++ after) ∧
    Writes 10 digits kind ∧ allBlank before = true ∧ allBlank after = true

namespace Describes

theorem fieldOf_eq (h : c.Describes t fields kind) :
    ∀ f ∈ fields, c.fieldOf t (f.name, UInt64.ofNat f.value) = .ok f.toFieldValue := by
  intro f hf
  obtain ⟨text, read, places⟩ := h.place f hf
  unfold fieldOf
  rw [read, Outcome.ok_bind, places.placeOf_eq]
  rfl

theorem pmuType_eq (h : c.Describes t fields kind) (small : kind < UInt32.size) :
    c.pmuType t = .ok (UInt32.ofNat kind) := by
  obtain ⟨before, digits, after, read, writes, hb, ha⟩ := h.kind
  have fits : kind < UInt64.size := Nat.lt_trans small (by decide)
  have word : Files.readWord t (c.directory.child "type") = .ok digits := by
    unfold Files.readWord
    rw [read, Outcome.ok_bind,
      firstWord_between hb writes.ne_nil (writes.isBlank (by decide) (by decide)) ha]
  have number : Files.readDecimal t (c.directory.child "type") = .ok (UInt64.ofNat kind) := by
    unfold Files.readDecimal Files.readWordAs
    rw [word, Outcome.ok_bind, if_neg (by rw [List.isEmpty_iff]; exact writes.ne_nil),
      writes.readU64?_eq (by decide) (by decide) fits]
  refine Outcome.bind_eq_ok.mpr ⟨_, number, ?_⟩
  rw [if_pos (by rwa [UInt64.toNat_ofNat_of_lt' fits]), UInt64.toUInt32_ofNat']

/-- What files describe is requested. -/
theorem request_eq (h : c.Describes t fields kind) (small : kind < UInt32.size) :
    c.request t =
      .ok ⟨UInt32.ofNat kind, FieldValue.assemble (fields.map PlacedField.toFieldValue)⟩ := by
  obtain ⟨file, before, pieces, after, event, read, assigned, hb, ha⟩ := h.event
  have items := PlacedField.assignments_eq hb ha assigned
  have placed : (fields.map fun f => (f.name, UInt64.ofNat f.value)).mapM (c.fieldOf t) =
      .ok (fields.map PlacedField.toFieldValue) := by
    rw [Outcome.mapM_eq_ok_iff, List.map_map, List.map_map]
    exact List.map_congr_left h.fieldOf_eq
  refine Outcome.bind_eq_ok.mpr ⟨file, Outcome.ofOption_eq_ok.mpr event, ?_⟩
  refine Outcome.bind_eq_ok.mpr ⟨_, read, ?_⟩
  refine Outcome.bind_eq_ok.mpr ⟨_, items, ?_⟩
  refine Outcome.bind_eq_ok.mpr ⟨_, placed, ?_⟩
  exact Outcome.bind_eq_ok.mpr ⟨_, h.pmuType_eq small, rfl⟩

end Describes

/-- The format of a field is a file of its group. -/
def HasFormat (c : Counter) (t : Tree) (f : FieldFormat) : Prop :=
  ∃ name, Files.readText t ((c.directory.child "format").join name) = .ok f.text

theorem exists_of_fieldOf {item : List Char × UInt64} {v : FieldValue}
    (h : c.fieldOf t item = .ok v) :
    ∃ f : FormattedValue, f.toFieldValue = v ∧ c.HasFormat t f.format := by
  obtain ⟨text, read, h⟩ := Outcome.bind_eq_ok.mp h
  obtain ⟨⟨start, size⟩, placed, h⟩ := Outcome.bind_eq_ok.mp h
  cases h
  exact ⟨⟨⟨text, start, size, placed⟩, item.2⟩, rfl, _, read⟩

/-- Whatever is requested is the word of values for fields whose formats are files of the group. -/
theorem exists_word_of_request {r : CounterRequest} (h : c.request t = .ok r) :
    ∃ values, r.config = FormattedValue.word values ∧ ∀ v ∈ values, c.HasFormat t v.format := by
  obtain ⟨_, _, h⟩ := Outcome.bind_eq_ok.mp h
  obtain ⟨_, _, h⟩ := Outcome.bind_eq_ok.mp h
  obtain ⟨items, _, h⟩ := Outcome.bind_eq_ok.mp h
  obtain ⟨placed, hp, h⟩ := Outcome.bind_eq_ok.mp h
  obtain ⟨_, _, h⟩ := Outcome.bind_eq_ok.mp h
  cases h
  have each : ∀ v ∈ placed, ∃ f : FormattedValue, f.toFieldValue = v ∧ c.HasFormat t f.format := by
    intro v hv
    obtain ⟨item, _, hi⟩ := Outcome.exists_of_mem_mapM hp v hv
    exact exists_of_fieldOf hi
  choose formatted same formats using each
  refine ⟨placed.pmap formatted fun _ hv => hv, ?_, fun v hv => ?_⟩
  · unfold FormattedValue.word
    rw [List.map_pmap, List.pmap_eq_self.mpr same]
  · obtain ⟨_, _, rfl⟩ := List.mem_pmap.mp hv
    exact formats _ _

/-- **The configuration of an event holds the values that its files assign.** Every field is read
back from the word at its place, no bit is set outside the places, and files that list the same
fields in another order ask for the same. -/
theorem isAssembled_request (h : c.Describes t fields kind)
    (apart : fields.Pairwise PlacedField.Apart) (small : kind < 2 ^ 32) :
    ∃ request, c.request t = .ok request ∧ request.pmuType.toNat = kind ∧
      PlacedField.IsAssembled fields request.config ∧
      ∀ u others, others.Perm fields → c.Describes u others kind → c.request u = .ok request := by
  refine ⟨_, h.request_eq small, UInt32.toNat_ofNat_of_lt' small,
    PlacedField.isAssembled_assemble apart, fun u others perm described => ?_⟩
  rw [described.request_eq small, PlacedField.assemble_perm perm]

/-! The last field of the sample has the highest bit for itself, and its value is not written. -/

def sampleField (name : String) (value first last : Nat)
    (well : IsFieldName name.toList ∧ first ≤ last ∧ last < 64 ∧ value < 2 ^ (last + 1 - first)) :
    PlacedField :=
  ⟨name.toList, value, first, last, well.1, well.2.1, well.2.2.1, well.2.2.2⟩

def sampleFields : List PlacedField :=
  [sampleField "umask" 1 63 63 (by decide), sampleField "event" 7 0 7 (by decide),
    sampleField "instance" 0x4B 8 62 (by decide)]

def sampleGroup : Tree :=
  .directory [("amdgpu_df_1", .directory [
    ("events", .directory [("cake1_pcsout_txdata",
      .file (Bytes.ofText "umask,event=0x07,instance=0x4B\n"))]),
    ("format", .directory [("umask", .file (Bytes.ofText "config:63\n")),
      ("event", .file (Bytes.ofText "config:0-7\n")),
      ("instance", .file (Bytes.ofText "config:8-62\n"))]),
    ("type", .file (Bytes.ofText "23\n"))])]

def sampleCounter : Counter := ⟨7, 0, Path.root ["amdgpu_df_1"], none, 0⟩

theorem describes_sampleGroup : sampleCounter.Describes sampleGroup sampleFields 23 where
  event := by
    refine ⟨"cake1_pcsout_txdata", [],
      ["umask".toList, "event=0x07".toList, "instance=0x4B".toList], ['\n'], by decide +kernel,
      Outcome.toOption_eq_some.mp (by decide +kernel), ?_, rfl, rfl⟩
    refine .cons (.name rfl) (.cons ?_ (.cons ?_ .nil))
    · exact .value "07".toList ⟨1, by decide +kernel⟩
    · exact .value "4B".toList ⟨0, by decide +kernel⟩
  place := by
    refine List.forall_mem_cons.mpr ⟨?_, List.forall_mem_cons.mpr ⟨?_, ?_⟩⟩
    · refine ⟨"config:63\n".toList, Outcome.toOption_eq_some.mp (by decide +kernel), ?_⟩
      exact .bit "config".toList "63".toList ['\n'] (by decide) rfl ⟨0, by decide +kernel⟩ rfl
    · refine ⟨"config:0-7\n".toList, Outcome.toOption_eq_some.mp (by decide +kernel), ?_⟩
      exact .range "config".toList "0".toList "7".toList ['\n'] (by decide)
        ⟨0, by decide +kernel⟩ ⟨0, by decide +kernel⟩ rfl
    · refine List.forall_mem_singleton.mpr
        ⟨"config:8-62\n".toList, Outcome.toOption_eq_some.mp (by decide +kernel), ?_⟩
      exact .range "config".toList "8".toList "62".toList ['\n'] (by decide)
        ⟨0, by decide +kernel⟩ ⟨0, by decide +kernel⟩ rfl
  kind :=
    ⟨[], "23".toList, ['\n'], Outcome.toOption_eq_some.mp (by decide +kernel),
      ⟨0, by decide +kernel⟩, rfl, rfl⟩

theorem isAssembled_sampleGroup :
    ∃ request, sampleCounter.request sampleGroup = .ok request ∧ request.pmuType.toNat = 23 ∧
      PlacedField.IsAssembled sampleFields request.config := by
  obtain ⟨request, h, kind, assembled, _⟩ :=
    isAssembled_request describes_sampleGroup (by decide +kernel) (by decide)
  exact ⟨request, h, kind, assembled⟩

end Counter

end GpuManagement
