import GpuManagement.Files.Bytes
import Mathlib.Data.List.Basic

/-!
# Places in the UTF-8 form of a text

A limit on a text counts bytes, and a fixed layout names its parts by bytes, while a text is kept as
the list of its characters. A place is a number of bytes from the start. It is a boundary when it is
not inside a character, and only there a text can be cut: `splitAt?` and `slice?` fail at any other
place, and beyond the end.

Two ways lead to boundaries without knowing the characters. Going down from any place ends at one,
for the start is one (`exists_lastBoundary?`). And where a byte is an ASCII character there is a
boundary on both sides of it, since no other character has such a byte in its form
(`exists_of_ascii`).
-/

namespace GpuManagement.Text

/-! ## Counting bytes -/

/-- The number of bytes that a text has in UTF-8. -/
def byteCount : List Char → Nat
  | [] => 0
  | c :: cs => c.utf8Size + byteCount cs

@[simp] theorem byteCount_nil : byteCount [] = 0 := rfl

@[simp] theorem byteCount_cons (c : Char) (cs : List Char) :
    byteCount (c :: cs) = c.utf8Size + byteCount cs := rfl

@[simp] theorem byteCount_append (front back : List Char) :
    byteCount (front ++ back) = byteCount front + byteCount back := by
  induction front with
  | nil => simp
  | cons c front ih => simp [ih, Nat.add_assoc]

/-- ASCII characters take one byte each. -/
theorem byteCount_eq_length {cs : List Char} (ascii : ∀ c ∈ cs, c.utf8Size = 1) :
    byteCount cs = cs.length := by
  induction cs with
  | nil => rfl
  | cons c cs ih =>
    obtain ⟨hc, ascii⟩ := List.forall_mem_cons.mp ascii
    rw [byteCount_cons, ih ascii, hc, List.length_cons, Nat.add_comm]

/-- The form of a text is that of its characters, one after the other. -/
theorem ofText_ofList (cs : List Char) :
    Bytes.ofText (String.ofList cs) = cs.flatMap String.utf8EncodeChar := by
  unfold Bytes.ofText
  rw [String.toByteArray_ofList, List.utf8Encode, List.toList_data_toByteArray]

theorem length_flatMap_utf8EncodeChar (cs : List Char) :
    (cs.flatMap String.utf8EncodeChar).length = byteCount cs := by
  induction cs with
  | nil => rfl
  | cons c cs ih =>
    rw [List.flatMap_cons, List.length_append, ih, String.length_utf8EncodeChar, byteCount_cons]

theorem length_ofText_ofList (cs : List Char) :
    (Bytes.ofText (String.ofList cs)).length = byteCount cs := by
  rw [ofText_ofList, length_flatMap_utf8EncodeChar]

/-! ## Cutting at a place -/

/-- The text before and after a place, if it is a boundary. -/
def splitAt? : Nat → List Char → Option (List Char × List Char)
  | 0, cs => some ([], cs)
  | _ + 1, [] => none
  | place + 1, c :: cs =>
    if c.utf8Size ≤ place + 1 then
      (splitAt? (place + 1 - c.utf8Size) cs).map fun parts => (c :: parts.1, parts.2)
    else none

/-- The part of a text from one place to another, if both are boundaries. -/
def slice? (start stop : Nat) (cs : List Char) : Option (List Char) := do
  let (front, _) ← splitAt? stop cs
  let (_, piece) ← splitAt? start front
  some piece

/-- A text is cut where its front has so many bytes. -/
theorem splitAt?_eq_some_iff {place : Nat} {cs front back : List Char} :
    splitAt? place cs = some (front, back) ↔ cs = front ++ back ∧ byteCount front = place := by
  induction cs generalizing place front with
  | nil =>
    cases place with
    | zero =>
      simp only [splitAt?, Option.some.injEq, Prod.mk.injEq, List.nil_eq, List.append_eq_nil_iff]
      constructor
      · rintro ⟨rfl, rfl⟩
        exact ⟨⟨rfl, rfl⟩, rfl⟩
      · rintro ⟨⟨rfl, rfl⟩, _⟩
        exact ⟨rfl, rfl⟩
    | succ place =>
      simp only [splitAt?, List.nil_eq, List.append_eq_nil_iff]
      constructor
      · intro h
        cases h
      · rintro ⟨⟨rfl, _⟩, h⟩
        cases h
  | cons c cs ih =>
    have positive := c.utf8Size_pos
    cases place with
    | zero =>
      simp only [splitAt?, Option.some.injEq, Prod.mk.injEq]
      constructor
      · rintro ⟨rfl, rfl⟩
        exact ⟨rfl, rfl⟩
      · rintro ⟨split, none⟩
        cases front with
        | nil => exact ⟨rfl, split⟩
        | cons d front =>
          have := d.utf8Size_pos
          rw [byteCount_cons] at none
          omega
    | succ place =>
      rw [splitAt?, Option.ite_none_right_eq_some, Option.map_eq_some_iff]
      constructor
      · rintro ⟨fits, ⟨front, back⟩, h, e⟩
        cases e
        obtain ⟨rfl, count⟩ := ih.mp h
        refine ⟨rfl, ?_⟩
        simp only [byteCount_cons]
        omega
      · rintro ⟨split, count⟩
        cases front with
        | nil => cases count
        | cons d front =>
          cases split
          rw [byteCount_cons] at count
          exact ⟨by omega, (front, back), ih.mpr ⟨rfl, by omega⟩, rfl⟩

/-- What stands between two boundaries is the part from one to the other. -/
theorem slice?_append (front piece back : List Char) :
    slice? (byteCount front) (byteCount front + byteCount piece) (front ++ piece ++ back) =
      some piece := by
  unfold slice?
  rw [splitAt?_eq_some_iff.mpr ⟨rfl, byteCount_append front piece⟩]
  show (splitAt? (byteCount front) (front ++ piece) >>= _) = _
  rw [splitAt?_eq_some_iff.mpr ⟨rfl, rfl⟩]
  rfl

/-! ## Boundaries -/

/-- Whether a place is not inside a character and not beyond the end. -/
def isBoundary (place : Nat) (cs : List Char) : Bool := (splitAt? place cs).isSome

theorem isBoundary_zero (cs : List Char) : isBoundary 0 cs = true := by
  simp [isBoundary, splitAt?]

theorem isBoundary_iff {place : Nat} {cs : List Char} :
    isBoundary place cs = true ↔ ∃ front back, cs = front ++ back ∧ byteCount front = place := by
  unfold isBoundary
  rw [Option.isSome_iff_exists]
  constructor
  · rintro ⟨⟨front, back⟩, h⟩
    exact ⟨front, back, splitAt?_eq_some_iff.mp h⟩
  · rintro ⟨front, back, h⟩
    exact ⟨(front, back), splitAt?_eq_some_iff.mpr h⟩

/-- The first boundary from a place down, if there is one before the start is passed. -/
def lastBoundary? (cs : List Char) : Nat → Option Nat
  | 0 => if isBoundary 0 cs then some 0 else none
  | place + 1 => if isBoundary (place + 1) cs then some (place + 1) else lastBoundary? cs place

/-- **Going down always comes to a boundary**, for the start is one. -/
theorem exists_lastBoundary? (cs : List Char) (place : Nat) :
    ∃ cut, lastBoundary? cs place = some cut := by
  induction place with
  | zero => exact ⟨0, if_pos (isBoundary_zero cs)⟩
  | succ place ih =>
    rw [lastBoundary?]
    split
    · exact ⟨_, rfl⟩
    · exact ih

/-- The first boundary on the way down is the greatest one that is not above the place. -/
theorem lastBoundary?_spec {cs : List Char} {place cut : Nat}
    (h : lastBoundary? cs place = some cut) :
    isBoundary cut cs = true ∧ cut ≤ place ∧
      ∀ other, other ≤ place → isBoundary other cs = true → other ≤ cut := by
  induction place with
  | zero =>
    obtain ⟨there, e⟩ := Option.ite_none_right_eq_some.mp h
    cases e
    exact ⟨there, Nat.le_refl 0, fun other below _ => below⟩
  | succ place ih =>
    rw [lastBoundary?] at h
    split at h
    · rename_i there
      cases h
      exact ⟨there, Nat.le_refl _, fun other below _ => below⟩
    · rename_i inside
      obtain ⟨there, below, greatest⟩ := ih h
      refine ⟨there, Nat.le_succ_of_le below, fun other le found => ?_⟩
      rcases Nat.le_succ_iff.mp le with le | rfl
      · exact greatest other le found
      · exact absurd found inside

/-! ## ASCII characters -/

/-- Only an ASCII character has a byte of an ASCII character in its form, and no other byte. -/
theorem utf8EncodeChar_of_ascii {c : Char} {b : UInt8} (h : b ∈ String.utf8EncodeChar c)
    (ascii : b.toNat < 128) : String.utf8EncodeChar c = [b] ∧ c.toNat = b.toNat := by
  have value : c.val.toNat = c.toNat := rfl
  unfold String.utf8EncodeChar at h ⊢
  simp only [value] at h ⊢
  split at h
  · rename_i small
    cases List.mem_singleton.mp h
    rw [if_pos small, UInt8.toNat_ofNat_of_lt' (by unfold UInt8.size; omega)]
    exact ⟨rfl, rfl⟩
  · -- Every byte of a longer form has its highest bit set.
    exfalso
    split at h
    · simp only [List.mem_cons, List.not_mem_nil, or_false] at h
      rcases h with rfl | rfl <;> (rw [UInt8.toNat_ofNat'] at ascii; omega)
    · split at h
      · simp only [List.mem_cons, List.not_mem_nil, or_false] at h
        rcases h with rfl | rfl | rfl <;> (rw [UInt8.toNat_ofNat'] at ascii; omega)
      · simp only [List.mem_cons, List.not_mem_nil, or_false] at h
        rcases h with rfl | rfl | rfl | rfl <;> (rw [UInt8.toNat_ofNat'] at ascii; omega)

/-- **An ASCII byte is a character of its own**: there is a boundary before it, and the character
after the boundary is the one of the byte. -/
theorem exists_of_ascii {cs : List Char} {place : Nat} {b : UInt8}
    (h : (Bytes.ofText (String.ofList cs))[place]? = some b) (ascii : b.toNat < 128) :
    ∃ front c back, cs = front ++ c :: back ∧ byteCount front = place ∧ c.toNat = b.toNat := by
  rw [ofText_ofList] at h
  induction cs generalizing place with
  | nil => cases h
  | cons c cs ih =>
    rw [List.flatMap_cons] at h
    by_cases inside : place < (String.utf8EncodeChar c).length
    · rw [List.getElem?_append_left inside] at h
      obtain ⟨form, same⟩ := utf8EncodeChar_of_ascii (List.mem_of_getElem? h) ascii
      rw [form, List.length_singleton] at inside
      exact ⟨[], c, cs, rfl, by rw [byteCount_nil]; omega, same⟩
    · rw [List.getElem?_append_right (Nat.not_lt.mp inside)] at h
      obtain ⟨front, d, back, rfl, count, same⟩ := ih h
      rw [String.length_utf8EncodeChar] at inside count
      refine ⟨c :: front, d, back, rfl, ?_, same⟩
      rw [byteCount_cons]
      omega

/-- The same from a boundary on. -/
theorem exists_of_ascii_after {front cs : List Char} {place : Nat} {b : UInt8}
    (h : (Bytes.ofText (String.ofList (front ++ cs)))[byteCount front + place]? = some b)
    (ascii : b.toNat < 128) :
    ∃ piece c back, cs = piece ++ c :: back ∧ byteCount piece = place ∧ c.toNat = b.toNat := by
  refine exists_of_ascii ?_ ascii
  have before := length_flatMap_utf8EncodeChar front
  rw [ofText_ofList, List.flatMap_append, List.getElem?_append_right (by omega), before,
    Nat.add_sub_cancel_left] at h
  rw [ofText_ofList, h]

/-- The byte after a boundary is that of the character there. -/
theorem getElem?_ofText_ofList {c : Char} (ascii : c.toNat < 128) (front back : List Char) :
    (Bytes.ofText (String.ofList (front ++ c :: back)))[byteCount front]? =
      some (UInt8.ofNat c.toNat) := by
  have form : String.utf8EncodeChar c = [UInt8.ofNat c.toNat] := by
    unfold String.utf8EncodeChar
    exact if_pos (Nat.le_of_lt_succ ascii)
  have before := length_flatMap_utf8EncodeChar front
  rw [ofText_ofList, List.flatMap_append, List.getElem?_append_right (Nat.le_of_eq before), before,
    Nat.sub_self, List.flatMap_cons, form]
  rfl

theorem utf8Size_of_ascii {c : Char} (ascii : c.toNat < 128) : c.utf8Size = 1 :=
  Char.utf8Size_eq_one_iff.mpr (UInt32.le_iff_toNat_le.mpr (Nat.le_of_lt_succ ascii))

end GpuManagement.Text
