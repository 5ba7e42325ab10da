/-!
# Whole numbers in text

Numbers are read from digits of a base up to sixteen. A plus sign may lead, a minus sign only where
negative numbers exist, and a number that does not fit its width is refused, never cut.
-/

namespace GpuManagement.Text

def isDigit (c : Char) : Bool := '0' ≤ c && c ≤ '9'

/-- The value of a digit in a base up to sixteen, letters in either case. -/
def digitValue? (base : Nat) (c : Char) : Option Nat :=
  let n := c.toNat
  let value :=
    if 48 ≤ n ∧ n ≤ 57 then n - 48
    else if 97 ≤ n ∧ n ≤ 102 then n - 87
    else if 65 ≤ n ∧ n ≤ 70 then n - 55
    else base
  if value < base then some value else none

/-- The number that digits continue, most significant first. -/
def readDigits (base : Nat) : Nat → List Char → Option Nat
  | acc, [] => some acc
  | acc, c :: cs =>
    match digitValue? base c with
    | some d => readDigits base (acc * base + d) cs
    | none => none

/-- The number that one or more digits write. -/
def readNat? (base : Nat) (cs : List Char) : Option Nat :=
  if cs.isEmpty then none else readDigits base 0 cs

def dropPlus : List Char → List Char
  | '+' :: cs => cs
  | cs => cs

/-- A number without sign below `bound`; one plus sign may lead. -/
def readBelow? (base bound : Nat) (cs : List Char) : Option Nat :=
  match readNat? base (dropPlus cs) with
  | some n => if n < bound then some n else none
  | none => none

def readU32? (base : Nat) (cs : List Char) : Option UInt32 :=
  (readBelow? base UInt32.size cs).map UInt32.ofNat

def readU64? (base : Nat) (cs : List Char) : Option UInt64 :=
  (readBelow? base UInt64.size cs).map UInt64.ofNat

/-- A decimal number in two's complement of `bits` bits; a plus or minus sign may lead. -/
def readSigned? (bits : Nat) : List Char → Option Int
  | '-' :: cs =>
    match readNat? 10 cs with
    | some n => if n ≤ 1 <<< (bits - 1) then some (-(n : Int)) else none
    | none => none
  | cs => (readBelow? 10 (1 <<< (bits - 1)) cs).map Int.ofNat

/-- Whether the text is one or more ASCII digits and nothing else. -/
def isNumber (cs : List Char) : Bool := !cs.isEmpty && cs.all isDigit

/-- Text without a leading `0x` or `0X`. -/
def dropHexMark : List Char → List Char
  | '0' :: 'x' :: cs => cs
  | '0' :: 'X' :: cs => cs
  | cs => cs

/-- The digit for a value below sixteen, in lower case. -/
def hexDigit (n : Nat) : Char :=
  if n < 10 then Char.ofNat (48 + n) else Char.ofNat (87 + n)

/-- The last `width` hexadecimal digits of a number, most significant first. -/
def hexOfWidth : Nat → Nat → List Char
  | 0, _ => []
  | width + 1, n => hexOfWidth width (n / 16) ++ [hexDigit (n % 16)]

/-- How many hexadecimal digits a number below `16 ^ fuel` takes, at least one. -/
def hexLength : Nat → Nat → Nat
  | 0, _ => 1
  | fuel + 1, n => if n < 16 then 1 else hexLength fuel (n / 16) + 1

/-- A number below `2 ^ 64` in lower-case hexadecimal, filled with zeros up to `width` digits. -/
def hexPadded (width n : Nat) : List Char := hexOfWidth (max width (hexLength 16 n)) n

def decimal (n : Nat) : List Char := Nat.toDigits 10 n

end GpuManagement.Text
