import GpuManagement.Proofs.Text.Hexadecimal
import GpuManagement.Proofs.Text.Place
import GpuManagement.Topology.Address

/-!
# Addresses and their written form

The written form of an address is `DDDD:BB:DD.F`, and it is read without any freedom: each field has
its number of hexadecimal digits, letters in either case, the device has no more than five bits and
the function no more than three (`HasForm`). The fields do not overlap in the packed number, so
every part is found again (`toNat_ofParts`), and writing what was read gives the text in lower case.

A text may also be read by its bytes: the separators are looked for at their places and the fields
are cut out between them. A cut at a place inside a character would fail. None does, for a place
that is cut at stands beside a separator, and a separator is a character of one byte
(`readByPlaces?_eq`).
-/

namespace GpuManagement.BusAddress

open Text

/-! ## The form -/

/-- The text with these fields. -/
def layOut (domain bus device function : List Char) : List Char :=
  domain ++ ':' :: (bus ++ ':' :: (device ++ '.' :: function))

/-- The address that the fields of a text write. -/
def ofFields? (d b v f : List Char) : Option BusAddress := do
  let domain ← hexField? d
  let bus ← hexField? b
  let device ← hexField? v
  let function ← hexField? f
  if 0x1F < device.toNat ∨ 0x7 < function.toNat then none
  else some (ofParts domain bus device function)

/-- So many hexadecimal digits that write the number. -/
structure IsField (width : Nat) (text : List Char) (n : Nat) : Prop where
  width : text.length = width
  digits : ∀ c ∈ text, c.isHexDigit = true
  writes : Writes 16 text n

/-- The text spells these numbers in the fields of an address. -/
def Spells (s : List Char) (domain bus device function : Nat) : Prop :=
  ∃ d b v f, s = layOut d b v f ∧
    IsField 4 d domain ∧ IsField 2 b bus ∧ IsField 2 v device ∧ IsField 1 f function

/-- Four hexadecimal digits, two, two that write no more than `1f`, and a digit up to `7`, with
colons and a point between them and nothing else. -/
def HasForm (s : List Char) : Prop :=
  ∃ d b v f, s = layOut d b v [f] ∧ d.length = 4 ∧ b.length = 2 ∧ v.length = 2 ∧
    (∀ c ∈ d ++ b ++ v, c.isHexDigit = true) ∧ (∃ device, Writes 16 v device ∧ device ≤ 0x1F) ∧
    '0' ≤ f ∧ f ≤ '7'

theorem isField_of_writes {width n : Nat} {text : List Char} (length : text.length = width)
    (h : Writes 16 text n) : IsField width text n :=
  ⟨length, h.isHexDigit (by decide) (by decide), h⟩

theorem IsField.lt {width n : Nat} {text : List Char} (h : IsField width text n) :
    n < 16 ^ width := by
  have below := readNat?_lt ((readNat?_eq_some_iff (by decide) (by decide)).mpr h.writes)
  rwa [h.width] at below

/-- Digits take one byte each. -/
theorem utf8Size_of_isHexDigit {c : Char} (h : c.isHexDigit = true) : c.utf8Size = 1 := by
  have ranges := toNat_of_isHexDigit h
  exact utf8Size_of_ascii (by omega)

theorem IsField.byteCount_eq {width n : Nat} {text : List Char} (h : IsField width text n) :
    byteCount text = width := by
  rw [byteCount_eq_length fun c hc => utf8Size_of_isHexDigit (h.digits c hc), h.width]

/-- What no more than four digits write fits into 64 bits. -/
theorem toNat_ofNat_of_short {width n : Nat} (short : width ≤ 4) (below : n < 16 ^ width) :
    (UInt64.ofNat n).toNat = n :=
  UInt64.toNat_ofNat_of_lt' (Nat.lt_of_lt_of_le below
    (Nat.le_trans (Nat.pow_le_pow_right (by decide) short) (by decide)))

theorem hexField?_eq_some_iff {cs : List Char} {n : UInt64} (short : cs.length ≤ 4) :
    hexField? cs = some n ↔ Writes 16 cs n.toNat := by
  unfold hexField?
  rw [Option.map_eq_some_iff, ← readNat?_eq_some_iff (by decide) (by decide)]
  constructor
  · rintro ⟨k, read, rfl⟩
    rwa [toNat_ofNat_of_short short (readNat?_lt read)]
  · intro read
    exact ⟨n.toNat, read, UInt64.ofNat_toNat⟩

theorem exists_isField {width : Nat} {text : List Char} (length : text.length = width)
    (positive : 0 < width) (digits : ∀ c ∈ text, c.isHexDigit = true) :
    ∃ n, IsField width text n := by
  obtain ⟨n, h⟩ := exists_writes (List.ne_nil_of_length_pos (length ▸ positive)) digits
  exact ⟨n, isField_of_writes length h⟩

/-- A field of one digit with a value below ten is the decimal digit. -/
theorem isField_singleton_iff {c : Char} {n : Nat} (small : n < 10) :
    IsField 1 [c] n ↔ c.toNat = 48 + n := by
  rw [← digitValue?_eq_some_iff small, ← writes_singleton_iff]
  exact ⟨IsField.writes, isField_of_writes rfl⟩

/-- A text has the form when it spells numbers that are small enough. -/
theorem hasForm_iff {s : List Char} :
    HasForm s ↔ ∃ domain bus device function, Spells s domain bus device function ∧
      device ≤ 0x1F ∧ function ≤ 0x7 := by
  constructor
  · rintro ⟨d, b, v, f, rfl, hd, hb, hv, digits, ⟨device, hdevice, small⟩, low, high⟩
    obtain ⟨digits, _⟩ := List.forall_mem_append.mp digits
    obtain ⟨digits₁, digits₂⟩ := List.forall_mem_append.mp digits
    obtain ⟨domain, hdomain⟩ := exists_isField hd (by decide) digits₁
    obtain ⟨bus, hbus⟩ := exists_isField hb (by decide) digits₂
    have low : 48 ≤ f.toNat := low
    have high : f.toNat ≤ 55 := high
    have function : IsField 1 [f] (f.toNat - 48) :=
      (isField_singleton_iff (by omega)).mpr (by omega)
    exact ⟨domain, bus, device, f.toNat - 48,
      ⟨d, b, v, [f], rfl, hdomain, hbus, isField_of_writes hv hdevice, function⟩, small, by omega⟩
  · rintro ⟨domain, bus, device, function, ⟨d, b, v, f, rfl, hd, hb, hv, hf⟩, small, last⟩
    obtain ⟨f, rfl⟩ := List.length_eq_one_iff.mp hf.width
    have code := (isField_singleton_iff (by omega)).mp hf
    have low : 48 ≤ f.toNat := by omega
    have high : f.toNat ≤ 55 := by omega
    have digits := List.forall_mem_append.mpr
      ⟨List.forall_mem_append.mpr ⟨hd.digits, hb.digits⟩, hv.digits⟩
    exact ⟨d, b, v, f, rfl, hd.width, hb.width, hv.width, digits, ⟨device, hv.writes, small⟩, low,
      high⟩

/-! ## What is read -/

theorem read?_layOut {d b v f : List Char} (hd : d.length = 4) (hb : b.length = 2)
    (hv : v.length = 2) (hf : f.length = 1) : read? (layOut d b v f) = ofFields? d b v f := by
  obtain ⟨d₁, d₂, d₃, d₄, rfl⟩ := List.length_eq_four.mp hd
  obtain ⟨b₁, b₂, rfl⟩ := List.length_eq_two.mp hb
  obtain ⟨v₁, v₂, rfl⟩ := List.length_eq_two.mp hv
  obtain ⟨f, rfl⟩ := List.length_eq_one_iff.mp hf
  rfl

/-- Only a text of this form is read. -/
theorem exists_layOut_of_read? {s : List Char} {a : BusAddress} (h : read? s = some a) :
    ∃ d b v f, s = layOut d b v f ∧ d.length = 4 ∧ b.length = 2 ∧ v.length = 2 ∧ f.length = 1 := by
  unfold read? at h
  split at h
  · rename_i d₁ d₂ d₃ d₄ b₁ b₂ v₁ v₂ f
    exact ⟨[d₁, d₂, d₃, d₄], [b₁, b₂], [v₁, v₂], [f], rfl, rfl, rfl, rfl, rfl⟩
  · cases h

theorem ofFields?_eq_some_iff {d b v f : List Char} {a : BusAddress}
    (hd : d.length ≤ 4) (hb : b.length ≤ 4) (hv : v.length ≤ 4) (hf : f.length ≤ 4) :
    ofFields? d b v f = some a ↔ ∃ domain bus device function : UInt64,
      Writes 16 d domain.toNat ∧ Writes 16 b bus.toNat ∧ Writes 16 v device.toNat ∧
        Writes 16 f function.toNat ∧ device.toNat ≤ 0x1F ∧ function.toNat ≤ 0x7 ∧
          ofParts domain bus device function = a := by
  unfold ofFields?
  simp only [Option.bind_eq_bind, Option.bind_eq_some_iff, hexField?_eq_some_iff hd,
    hexField?_eq_some_iff hb, hexField?_eq_some_iff hv, hexField?_eq_some_iff hf,
    Option.ite_none_left_eq_some, Option.some.injEq, not_or, Nat.not_lt]
  constructor
  · rintro ⟨domain, h₁, bus, h₂, device, h₃, function, h₄, ⟨small, low⟩, e⟩
    exact ⟨domain, bus, device, function, h₁, h₂, h₃, h₄, small, low, e⟩
  · rintro ⟨domain, bus, device, function, h₁, h₂, h₃, h₄, small, low, e⟩
    exact ⟨domain, h₁, bus, h₂, device, h₃, function, h₄, ⟨small, low⟩, e⟩

/-- **What is read** are the numbers that the text spells. -/
theorem read?_eq_some_iff {s : List Char} {a : BusAddress} :
    read? s = some a ↔ ∃ domain bus device function : UInt64,
      Spells s domain.toNat bus.toNat device.toNat function.toNat ∧ device.toNat ≤ 0x1F ∧
        function.toNat ≤ 0x7 ∧ ofParts domain bus device function = a := by
  constructor
  · intro h
    obtain ⟨d, b, v, f, rfl, hd, hb, hv, hf⟩ := exists_layOut_of_read? h
    rw [read?_layOut hd hb hv hf,
      ofFields?_eq_some_iff (by omega) (by omega) (by omega) (by omega)] at h
    obtain ⟨domain, bus, device, function, h₁, h₂, h₃, h₄, small, low, e⟩ := h
    exact ⟨domain, bus, device, function, ⟨d, b, v, f, rfl, isField_of_writes hd h₁,
      isField_of_writes hb h₂, isField_of_writes hv h₃, isField_of_writes hf h₄⟩, small, low, e⟩
  · rintro ⟨domain, bus, device, function, ⟨d, b, v, f, rfl, hd, hb, hv, hf⟩, small, low, e⟩
    have wd := hd.width
    have wb := hb.width
    have wv := hv.width
    have wf := hf.width
    rw [read?_layOut wd wb wv wf,
      ofFields?_eq_some_iff (by omega) (by omega) (by omega) (by omega)]
    exact ⟨domain, bus, device, function, hd.writes, hb.writes, hv.writes, hf.writes, small, low, e⟩

/-- A text is read exactly when it has the form. -/
theorem exists_read?_iff {s : List Char} : (∃ a, read? s = some a) ↔ HasForm s := by
  rw [hasForm_iff]
  simp only [read?_eq_some_iff]
  constructor
  · rintro ⟨_, domain, bus, device, function, spells, small, low, rfl⟩
    exact ⟨domain.toNat, bus.toNat, device.toNat, function.toNat, spells, small, low⟩
  · rintro ⟨domain, bus, device, function, spells, small, low⟩
    obtain ⟨d, b, v, f, rfl, hd, hb, hv, hf⟩ := spells
    refine ⟨_, .ofNat domain, .ofNat bus, .ofNat device, .ofNat function, ?_, ?_, ?_, rfl⟩
    · rw [toNat_ofNat_of_short (by decide) hd.lt, toNat_ofNat_of_short (by decide) hb.lt,
        toNat_ofNat_of_short (by decide) hv.lt, toNat_ofNat_of_short (by decide) hf.lt]
      exact ⟨d, b, v, f, rfl, hd, hb, hv, hf⟩
    · rwa [toNat_ofNat_of_short (by decide) hv.lt]
    · rwa [toNat_ofNat_of_short (by decide) hf.lt]

/-! ## The packed number -/

/-- The parts of an address with the bits that each may have. -/
structure AreParts (domain bus device function : UInt64) : Prop where
  domain : domain.toNat < 2 ^ 16
  bus : bus.toNat < 2 ^ 8
  device : device.toNat < 2 ^ 5
  function : function.toNat < 2 ^ 3

theorem toNat_shiftLeft_of_lt {n k : UInt64} {width : Nat} (h : n.toNat < 2 ^ width)
    (small : k.toNat < 64) (fits : width + k.toNat ≤ 64) :
    (n <<< k).toNat = 2 ^ k.toNat * n.toNat := by
  rw [UInt64.toNat_shiftLeft, Nat.mod_eq_of_lt small, Nat.shiftLeft_eq, Nat.mul_comm,
    Nat.mod_eq_of_lt]
  calc 2 ^ k.toNat * n.toNat < 2 ^ k.toNat * 2 ^ width :=
        Nat.mul_lt_mul_of_pos_left h (Nat.two_pow_pos _)
    _ = 2 ^ (width + k.toNat) := by rw [Nat.pow_add, Nat.mul_comm]
    _ ≤ 2 ^ 64 := Nat.pow_le_pow_right (by decide) fits

theorem toNat_shiftRight {n k : UInt64} (small : k.toNat < 64) :
    (n >>> k).toNat = n.toNat / 2 ^ k.toNat := by
  rw [UInt64.toNat_shiftRight, Nat.mod_eq_of_lt small, Nat.shiftRight_eq_div_pow]

/-- A mask of ones keeps the lowest bits. -/
theorem toNat_and_mask {n mask : UInt64} (width : Nat) (ones : mask.toNat = 2 ^ width - 1) :
    (n &&& mask).toNat = n.toNat % 2 ^ width := by
  rw [UInt64.toNat_and, ones, Nat.and_two_pow_sub_one_eq_mod]

namespace AreParts

variable {domain bus device function : UInt64}

/-- **The parts do not overlap**: packing them adds them up. -/
theorem toNat_ofParts (h : AreParts domain bus device function) :
    (ofParts domain bus device function).toNat =
      2 ^ 32 * domain.toNat + 2 ^ 8 * bus.toNat + 2 ^ 3 * device.toNat + function.toNat := by
  obtain ⟨hd, hb, hv, hf⟩ := h
  unfold ofParts
  rw [UInt64.toNat_or, UInt64.toNat_or, UInt64.toNat_or,
    toNat_shiftLeft_of_lt hd (by decide) (by decide),
    toNat_shiftLeft_of_lt hb (by decide) (by decide),
    toNat_shiftLeft_of_lt hv (by decide) (by decide)]
  -- From the left, what is packed so far is a multiple of a power that the next part is below.
  have low₁ : 2 ^ 8 * bus.toNat < 2 ^ 32 := by omega
  have low₂ : 2 ^ 3 * device.toNat < 2 ^ 8 := by omega
  have upper₁ : 2 ^ 32 * domain.toNat + 2 ^ 8 * bus.toNat =
      2 ^ 8 * (2 ^ 24 * domain.toNat + bus.toNat) := by omega
  have upper₂ : 2 ^ 32 * domain.toNat + 2 ^ 8 * bus.toNat + 2 ^ 3 * device.toNat =
      2 ^ 3 * (2 ^ 29 * domain.toNat + 2 ^ 5 * bus.toNat + device.toNat) := by omega
  calc 2 ^ 32 * domain.toNat ||| 2 ^ 8 * bus.toNat ||| 2 ^ 3 * device.toNat ||| function.toNat
      = (2 ^ 32 * domain.toNat + 2 ^ 8 * bus.toNat) ||| 2 ^ 3 * device.toNat |||
          function.toNat := by rw [Nat.two_pow_add_eq_or_of_lt low₁]
    _ = (2 ^ 32 * domain.toNat + 2 ^ 8 * bus.toNat + 2 ^ 3 * device.toNat) ||| function.toNat := by
      rw [upper₁, Nat.two_pow_add_eq_or_of_lt low₂]
    _ = 2 ^ 32 * domain.toNat + 2 ^ 8 * bus.toNat + 2 ^ 3 * device.toNat + function.toNat := by
      rw [upper₂, Nat.two_pow_add_eq_or_of_lt hf]

/-- Each part is found again. -/
theorem domain_eq (h : AreParts domain bus device function) :
    (ofParts domain bus device function >>> 32).toNat = domain.toNat := by
  have sum := h.toNat_ofParts
  obtain ⟨_, hb, hv, hf⟩ := h
  rw [toNat_shiftRight (by decide), sum, show (32 : UInt64).toNat = 32 from rfl]
  omega

theorem bus_eq (h : AreParts domain bus device function) :
    ((ofParts domain bus device function >>> 8) &&& 0xFF).toNat = bus.toNat := by
  have sum := h.toNat_ofParts
  obtain ⟨_, hb, hv, hf⟩ := h
  rw [toNat_and_mask 8 rfl, toNat_shiftRight (by decide), sum, show (8 : UInt64).toNat = 8 from rfl]
  omega

theorem device_eq (h : AreParts domain bus device function) :
    ((ofParts domain bus device function >>> 3) &&& 0x1F).toNat = device.toNat := by
  have sum := h.toNat_ofParts
  obtain ⟨_, hb, hv, hf⟩ := h
  rw [toNat_and_mask 5 rfl, toNat_shiftRight (by decide), sum, show (3 : UInt64).toNat = 3 from rfl]
  omega

theorem function_eq (h : AreParts domain bus device function) :
    (ofParts domain bus device function &&& 0x7).toNat = function.toNat := by
  have sum := h.toNat_ofParts
  have hf := h.function
  rw [toNat_and_mask 3 rfl, sum]
  omega

/-- An address is written with its parts in its fields. -/
theorem text_ofParts (h : AreParts domain bus device function) :
    text (ofParts domain bus device function) =
      layOut (hexOfWidth 4 domain.toNat) (hexOfWidth 2 bus.toNat) (hexOfWidth 2 device.toNat)
        (hexOfWidth 1 function.toNat) := by
  unfold text
  rw [h.domain_eq, h.bus_eq, h.device_eq, h.function_eq]
  obtain ⟨hd, hb, hv, hf⟩ := h
  rw [hexPadded_eq (by decide) (show domain.toNat < 16 ^ 4 by omega),
    hexPadded_eq (by decide) (show bus.toNat < 16 ^ 2 by omega),
    hexPadded_eq (by decide) (show device.toNat < 16 ^ 2 by omega),
    hexPadded_eq (by decide) (show function.toNat < 16 ^ 1 by omega)]
  simp only [layOut, List.append_assoc, List.cons_append, List.nil_append]

/-- The written form spells the parts. -/
theorem spells_text (h : AreParts domain bus device function) :
    Spells (text (ofParts domain bus device function)) domain.toNat bus.toNat device.toNat
      function.toNat := by
  have field : ∀ {width n : Nat}, 0 < width → n < 16 ^ width →
      IsField width (hexOfWidth width n) n :=
    fun positive below => isField_of_writes (length_hexOfWidth _ _)
      (writes_of_readDigits (by decide) (by decide)
        (List.ne_nil_of_length_pos (by rwa [length_hexOfWidth])) (readDigits_hexOfWidth below))
  have same := h.text_ofParts
  obtain ⟨hd, hb, hv, hf⟩ := h
  exact ⟨_, _, _, _, same, field (by decide) (by omega), field (by decide) (by omega),
    field (by decide) (by omega), field (by decide) (by omega)⟩

/-- **An address is read back from its written form.** -/
theorem read?_text (h : AreParts domain bus device function) :
    read? (text (ofParts domain bus device function)) =
      some (ofParts domain bus device function) :=
  read?_eq_some_iff.mpr ⟨domain, bus, device, function, h.spells_text,
    Nat.le_of_lt_succ h.device, Nat.le_of_lt_succ h.function, rfl⟩

end AreParts

/-- Numbers that are spelled and small enough are parts of an address. -/
theorem Spells.areParts {s : List Char} {domain bus device function : UInt64}
    (h : Spells s domain.toNat bus.toNat device.toNat function.toNat)
    (small : device.toNat ≤ 0x1F) (low : function.toNat ≤ 0x7) :
    AreParts domain bus device function := by
  obtain ⟨d, b, v, f, rfl, hd, hb, _, _⟩ := h
  exact ⟨hd.lt, hb.lt, Nat.lt_succ_of_le small, Nat.lt_succ_of_le low⟩

theorem IsField.map_toLower {width n : Nat} {text : List Char} (h : IsField width text n) :
    text.map Char.toLower = hexOfWidth width n := by
  obtain ⟨_, read⟩ := Option.ite_none_left_eq_some.mp
    ((readNat?_eq_some_iff (by decide) (by decide)).mpr h.writes)
  rw [map_toLower_of_readDigits read, h.width]

/-- Writing what is read gives the text in lower case. -/
theorem text_of_read? {s : List Char} {a : BusAddress} (h : read? s = some a) :
    text a = s.map Char.toLower := by
  obtain ⟨domain, bus, device, function, spells, small, low, rfl⟩ := read?_eq_some_iff.mp h
  rw [(spells.areParts small low).text_ofParts]
  obtain ⟨d, b, v, f, rfl, hd, hb, hv, hf⟩ := spells
  unfold layOut
  simp only [List.map_append, List.map_cons, hd.map_toLower, hb.map_toLower, hv.map_toLower,
    hf.map_toLower]
  rfl

/-! ## Reading by places -/

/-- The address as it is read by the bytes of a text: twelve of them, with separators at their
places and the fields cut out between them. There is none, not even the answer that this is no
address, if a cut is inside a character; all cuts are made before the first field is read. -/
def readByPlaces? (s : List Char) : Option (Option BusAddress) :=
  let bytes := Bytes.ofText (String.ofList s)
  if bytes.length = 12 ∧ bytes[4]? = some 58 ∧ bytes[7]? = some 58 ∧ bytes[10]? = some 46 then do
    let domain ← slice? 0 4 s
    let bus ← slice? 5 7 s
    let device ← slice? 8 10 s
    let function ← slice? 11 12 s
    some (ofFields? domain bus device function)
  else some none

section Places

variable {d b v f : List Char}

/-- The fields have as many bytes as stand between the separators of an address. -/
structure AreAtPlaces (d b v f : List Char) : Prop where
  domain : byteCount d = 4
  bus : byteCount b = 2
  device : byteCount v = 2
  function : byteCount f = 1

theorem areAtPlaces_of_isField {domain bus device function : Nat} (hd : IsField 4 d domain)
    (hb : IsField 2 b bus) (hv : IsField 2 v device) (hf : IsField 1 f function) :
    AreAtPlaces d b v f :=
  ⟨hd.byteCount_eq, hb.byteCount_eq, hv.byteCount_eq, hf.byteCount_eq⟩

theorem byteCount_colon (cs : List Char) : byteCount (':' :: cs) = 1 + byteCount cs := rfl

theorem byteCount_point (cs : List Char) : byteCount ('.' :: cs) = 1 + byteCount cs := rfl

/-- The text in front of its second and of its third separator, and what comes after. -/
theorem layOut_eq_front (d b v f : List Char) :
    layOut d b v f = (d ++ ':' :: b) ++ ':' :: (v ++ '.' :: f) ∧
      layOut d b v f = (d ++ ':' :: (b ++ ':' :: v)) ++ '.' :: f := by
  unfold layOut
  simp only [List.append_assoc, List.cons_append, and_self]

/-- The separators stand at their places when the fields do. -/
theorem separators_iff {s : List Char} :
    (Bytes.ofText (String.ofList s)).length = 12 ∧
      (Bytes.ofText (String.ofList s))[4]? = some 58 ∧
      (Bytes.ofText (String.ofList s))[7]? = some 58 ∧
      (Bytes.ofText (String.ofList s))[10]? = some 46 ↔
    ∃ d b v f, s = layOut d b v f ∧ AreAtPlaces d b v f := by
  rw [length_ofText_ofList]
  constructor
  · rintro ⟨length, first, second, third⟩
    -- One separator after the other: what stands after the last boundary is the text that is left.
    obtain ⟨d, c, s, rfl, hd, hc⟩ := exists_of_ascii first (by decide)
    obtain rfl : c = ':' := Char.toNat_inj.mp hc
    have front : byteCount (d ++ [':']) + 2 = 7 := by
      rw [byteCount_append, hd]
      rfl
    rw [List.append_cons, ← front] at second
    obtain ⟨b, c, s, rfl, hb, hc⟩ := exists_of_ascii_after second (by decide)
    obtain rfl : c = ':' := Char.toNat_inj.mp hc
    have front : byteCount (d ++ ':' :: (b ++ [':'])) + 2 = 10 := by
      rw [byteCount_append, byteCount_colon, byteCount_append, hd, hb]
      rfl
    have regroup : d ++ ':' :: (b ++ ':' :: s) = (d ++ ':' :: (b ++ [':'])) ++ s := by
      simp only [List.append_assoc, List.cons_append, List.nil_append]
    rw [regroup, ← front] at third
    obtain ⟨v, c, f, rfl, hv, hc⟩ := exists_of_ascii_after third (by decide)
    obtain rfl : c = '.' := Char.toNat_inj.mp hc
    refine ⟨d, b, v, f, rfl, ⟨hd, hb, hv, ?_⟩⟩
    rw [byteCount_append, byteCount_colon, byteCount_append, byteCount_colon, byteCount_append,
      byteCount_point] at length
    omega
  · rintro ⟨d, b, v, f, rfl, ⟨hd, hb, hv, hf⟩⟩
    obtain ⟨second, third⟩ := layOut_eq_front d b v f
    refine ⟨?_, ?_, ?_, ?_⟩
    · rw [layOut, byteCount_append, byteCount_colon, byteCount_append, byteCount_colon,
        byteCount_append, byteCount_point]
      omega
    · rw [show 4 = byteCount d from hd.symm]
      exact getElem?_ofText_ofList (by decide) d _
    · rw [second, show 7 = byteCount (d ++ ':' :: b) by
        rw [byteCount_append, byteCount_colon]; omega]
      exact getElem?_ofText_ofList (by decide) _ _
    · rw [third, show 10 = byteCount (d ++ ':' :: (b ++ ':' :: v)) by
        rw [byteCount_append, byteCount_colon, byteCount_append, byteCount_colon]; omega]
      exact getElem?_ofText_ofList (by decide) _ _

/-- Between separators at their places the fields are cut out, wherever their characters begin. -/
theorem slices_layOut (h : AreAtPlaces d b v f) :
    slice? 0 4 (layOut d b v f) = some d ∧ slice? 5 7 (layOut d b v f) = some b ∧
      slice? 8 10 (layOut d b v f) = some v ∧ slice? 11 12 (layOut d b v f) = some f := by
  have cut : ∀ {start stop : Nat} {s : List Char} (front piece back : List Char),
      s = front ++ piece ++ back → byteCount front = start → start + byteCount piece = stop →
      slice? start stop s = some piece := by
    rintro _ _ _ front piece back rfl rfl rfl
    exact slice?_append front piece back
  obtain ⟨hd, hb, hv, hf⟩ := h
  refine ⟨cut [] d (':' :: (b ++ ':' :: (v ++ '.' :: f))) rfl rfl (by omega),
    cut (d ++ [':']) b (':' :: (v ++ '.' :: f)) ?_ ?_ (by omega),
    cut (d ++ ':' :: (b ++ [':'])) v ('.' :: f) ?_ ?_ (by omega),
    cut (d ++ ':' :: (b ++ ':' :: (v ++ ['.']))) f [] ?_ ?_ (by omega)⟩
  all_goals
    simp only [layOut, List.append_assoc, List.cons_append, List.nil_append, List.append_nil,
      byteCount_append, byteCount_colon, byteCount_point, byteCount_nil]
  all_goals omega

/-- Digits are as many as their bytes. -/
theorem length_of_hexField? {cs : List Char} {n : UInt64} (h : hexField? cs = some n) :
    cs.length = byteCount cs := by
  obtain ⟨_, read, _⟩ := Option.map_eq_some_iff.mp h
  obtain ⟨_, read⟩ := Option.ite_none_left_eq_some.mp read
  exact (byteCount_eq_length fun c hc =>
    utf8Size_of_isHexDigit (isHexDigit_of_readDigits read c hc)).symm

/-- The fields between separators at their places are those that are read. -/
theorem read?_layOut_of_areAtPlaces (placed : AreAtPlaces d b v f) :
    read? (layOut d b v f) = ofFields? d b v f := by
  refine Option.ext fun a => ⟨fun h => ?_, fun h => ?_⟩
  · -- The fields that were read are cut out at the same places.
    have read := h
    obtain ⟨_, _, _, _, ⟨d', b', v', f', same, hd', hb', hv', hf'⟩, _⟩ := read?_eq_some_iff.mp h
    have cuts := slices_layOut placed
    rw [same] at cuts read
    obtain ⟨e₁, e₂, e₃, e₄⟩ := slices_layOut (areAtPlaces_of_isField hd' hb' hv' hf')
    rw [e₁, e₂, e₃, e₄] at cuts
    obtain ⟨⟨⟩, ⟨⟩, ⟨⟩, ⟨⟩⟩ := cuts
    rwa [read?_layOut hd'.width hb'.width hv'.width hf'.width] at read
  · have fields := h
    obtain ⟨_, h₁, h⟩ := Option.bind_eq_some_iff.mp h
    obtain ⟨_, h₂, h⟩ := Option.bind_eq_some_iff.mp h
    obtain ⟨_, h₃, h⟩ := Option.bind_eq_some_iff.mp h
    obtain ⟨_, h₄, _⟩ := Option.bind_eq_some_iff.mp h
    rwa [read?_layOut ((length_of_hexField? h₁).trans placed.domain)
      ((length_of_hexField? h₂).trans placed.bus) ((length_of_hexField? h₃).trans placed.device)
      ((length_of_hexField? h₄).trans placed.function)]

end Places

/-- **No cut is inside a character**, and reading by places comes to the same. -/
theorem readByPlaces?_eq (s : List Char) : readByPlaces? s = some (read? s) := by
  unfold readByPlaces?
  dsimp only
  split
  · rename_i separated
    obtain ⟨d, b, v, f, rfl, placed⟩ := separators_iff.mp separated
    obtain ⟨cut₁, cut₂, cut₃, cut₄⟩ := slices_layOut placed
    rw [cut₁, cut₂, cut₃, cut₄, read?_layOut_of_areAtPlaces placed]
    rfl
  · rename_i unseparated
    have unread : read? s = none := by
      refine Option.eq_none_iff_forall_ne_some.mpr fun a h => unseparated ?_
      obtain ⟨_, _, _, _, ⟨d, b, v, f, e, hd, hb, hv, hf⟩, _⟩ := read?_eq_some_iff.mp h
      exact separators_iff.mpr ⟨d, b, v, f, e, areAtPlaces_of_isField hd hb hv hf⟩
    rw [unread]

/-! ## Exactness -/

/-- What becomes of a text that may be an address. -/
structure IsExact (s : List Char) : Prop where
  accepted_iff : (∃ a, read? s = some a) ↔ HasForm s
  packed : ∀ a, read? s = some a → ∃ domain bus device function,
    Spells s domain bus device function ∧
      a.toNat = 2 ^ 32 * domain + 2 ^ 8 * bus + 2 ^ 3 * device + function
  written : ∀ a, read? s = some a → text a = s.map Char.toLower
  /-- Reading by places has an answer, and it is this one. -/
  stays : readByPlaces? s = some (read? s)

/-- **Exactly the texts of the form are addresses**, and each is written as its text in lower case;
and every address of parts within their bits is read back from what is written of it. -/
theorem isExact_and_readsBack :
    (∀ s, IsExact s) ∧ ∀ domain bus device function, AreParts domain bus device function →
      read? (text (ofParts domain bus device function)) =
        some (ofParts domain bus device function) := by
  refine ⟨fun s => ⟨exists_read?_iff, ?_, fun a => text_of_read?, readByPlaces?_eq s⟩,
    fun domain bus device function parts => parts.read?_text⟩
  intro a h
  obtain ⟨domain, bus, device, function, spells, small, low, rfl⟩ := read?_eq_some_iff.mp h
  exact ⟨_, _, _, _, spells, (spells.areParts small low).toNat_ofParts⟩

/-- The last of all addresses is read back, letters count in either case, and a character of two
bytes among the digits does no harm. -/
theorem isExact_and_readsBack_last :
    read? (text (ofParts 0xFFFF 0xFF 0x1F 7)) = some (ofParts 0xFFFF 0xFF 0x1F 7) ∧
      text (ofParts 0xAF 0xC1 0x1F 7) = "00af:c1:1f.7".toList ∧
      readByPlaces? "00é:00:00.0".toList = some none := by
  have parts : AreParts 0xFFFF 0xFF 0x1F 7 := ⟨by decide, by decide, by decide, by decide⟩
  refine ⟨isExact_and_readsBack.2 _ _ _ _ parts, ?_, ?_⟩
  · rw [(isExact_and_readsBack.1 "00aF:C1:1f.7".toList).written _ (by decide +kernel)]
    decide +kernel
  · rw [(isExact_and_readsBack.1 "00é:00:00.0".toList).stays]
    decide +kernel

end GpuManagement.BusAddress
