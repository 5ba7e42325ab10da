/-!
# Bytes and UTF-8

The content of a file is a list of bytes. Text is read from it strictly, as a file that is not
UTF-8 has no text, or leniently, with a replacement character for each damaged stretch.
-/

namespace GpuManagement

/-- The content of a file or of a message. -/
abbrev Bytes := List UInt8

namespace Bytes

def ofText (text : String) : Bytes := text.toByteArray.data.toList

/-- The text that the bytes are the UTF-8 form of, if they are one. -/
def text? (bytes : Bytes) : Option String := String.fromUTF8? ⟨bytes.toArray⟩

/-- The number that bytes write, the least significant first. -/
def toNat : Bytes → Nat
  | [] => 0
  | b :: bs => b.toNat + 256 * toNat bs

/-- The last `width` base-256 digits of a number, the least significant first. -/
def ofNat : Nat → Nat → Bytes
  | 0, _ => []
  | width + 1, n => UInt8.ofNat n :: ofNat width (n / 256)

/-- How many of the bytes after the first belong to a well-formed start of a character: the first
byte decides the count and the range of the second, later ones are continuation bytes. A result
is the number of bytes taken and whether the character is complete. -/
def scan (first : UInt8) (rest : Bytes) : Nat × Bool :=
  let b := first.toNat
  if b < 0x80 then (1, true)
  else if 0xC2 ≤ b ∧ b ≤ 0xDF then continued [(0x80, 0xBF)] rest 1
  else if b = 0xE0 then continued [(0xA0, 0xBF), (0x80, 0xBF)] rest 1
  else if (0xE1 ≤ b ∧ b ≤ 0xEC) ∨ b = 0xEE ∨ b = 0xEF then
    continued [(0x80, 0xBF), (0x80, 0xBF)] rest 1
  else if b = 0xED then continued [(0x80, 0x9F), (0x80, 0xBF)] rest 1
  else if b = 0xF0 then continued [(0x90, 0xBF), (0x80, 0xBF), (0x80, 0xBF)] rest 1
  else if 0xF1 ≤ b ∧ b ≤ 0xF3 then
    continued [(0x80, 0xBF), (0x80, 0xBF), (0x80, 0xBF)] rest 1
  else if b = 0xF4 then continued [(0x80, 0x8F), (0x80, 0xBF), (0x80, 0xBF)] rest 1
  else (1, false)
where
  /-- Takes bytes as long as each lies in its range. -/
  continued : List (Nat × Nat) → Bytes → Nat → Nat × Bool
    | [], _, taken => (taken, true)
    | _ :: _, [], taken => (taken, false)
    | range :: ranges, b :: bs, taken =>
      if range.1 ≤ b.toNat ∧ b.toNat ≤ range.2 then continued ranges bs (taken + 1)
      else (taken, false)

def decodeChar : Bytes → Char
  | [a] => Char.ofNat a.toNat
  | [a, b] => Char.ofNat ((a.toNat % 32) * 64 + b.toNat % 64)
  | [a, b, c] => Char.ofNat (((a.toNat % 16) * 64 + b.toNat % 64) * 64 + c.toNat % 64)
  | [a, b, c, d] =>
    Char.ofNat ((((a.toNat % 8) * 64 + b.toNat % 64) * 64 + c.toNat % 64) * 64 + d.toNat % 64)
  | _ => '\uFFFD'

/-- Text read leniently from at most `fuel` characters: each longest damaged start of a character
becomes one replacement character. -/
def lenientFrom : Nat → Bytes → List Char
  | 0, _ => []
  | _, [] => []
  | fuel + 1, b :: bs =>
    let (taken, complete) := scan b bs
    let c := if complete then decodeChar ((b :: bs).take taken) else '\uFFFD'
    c :: lenientFrom fuel ((b :: bs).drop taken)

/-- Text read leniently; every step takes at least one byte. -/
def lenientText (bytes : Bytes) : List Char := lenientFrom bytes.length bytes

/-- A text is read back from its UTF-8 form. -/
theorem text?_ofText (text : String) : text? (ofText text) = some text := by
  simp only [text?, ofText, Array.toArray_toList, String.fromUTF8?]
  simp only [String.fromUTF8]
  exact dif_pos text.isValidUTF8

theorem length_ofNat (width n : Nat) : (ofNat width n).length = width := by
  induction width generalizing n with
  | zero => rfl
  | succ width ih => simp [ofNat, ih]

/-- Bytes of a number give the number back, cut to their width. -/
theorem toNat_ofNat (width n : Nat) : toNat (ofNat width n) = n % Nat.pow 256 width := by
  induction width generalizing n with
  | zero => simp [ofNat, toNat, Nat.mod_one]
  | succ width ih =>
    have low : (UInt8.ofNat n).toNat = n % 256 := by simp
    have step : Nat.pow 256 (width + 1) = 256 * Nat.pow 256 width :=
      Nat.mul_comm (Nat.pow 256 width) 256
    rw [ofNat, toNat, ih, low, step, Nat.mod_mul]

end Bytes

end GpuManagement
