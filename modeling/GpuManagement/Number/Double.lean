/-!
# Binary floating point without sign

A double is a natural mantissa times a power of two, so a product or a rounding is exact arithmetic
on natural numbers followed by one rounding. `Double.ofRatio` is that rounding: the nearest number
with 53 bits, a tie going to the even one, the exponent kept within its range.
-/

namespace GpuManagement

/-- The double-precision numbers from zero up, with infinity above them all. -/
inductive Double where
  | finite (mantissa : Nat) (exponent : Int)
  | infinite
  deriving DecidableEq, Repr

namespace Double

/-- A quotient rounded to the nearest whole number, a tie to the even one. -/
def roundHalfEven (num den : Nat) : Nat :=
  let q := num / den
  let twice := 2 * (num % den)
  if twice < den then q
  else if den < twice then q + 1
  else if q % 2 = 0 then q else q + 1

/-- A number times a power of two, as numerator and denominator. -/
def scaled (n : Nat) (exponent : Int) : Nat × Nat :=
  if 0 ≤ exponent then (n <<< exponent.toNat, 1) else (n, 1 <<< (-exponent).toNat)

def leastMantissa : Nat := 1 <<< 52

/-- The exponent that leaves a quotient a mantissa of 53 bits, or the least one there is. -/
def exponentOf (num den : Nat) : Int :=
  let guess : Int := (num.log2 : Int) - (den.log2 : Int) - 52
  let shifted := scaled num (-guess)
  let exponent := if shifted.1 / (shifted.2 * den) < leastMantissa then guess - 1 else guess
  max exponent (-1074)

/-- The double nearest to a quotient; what reaches `2 ^ 1024` after rounding is infinite. -/
def ofRatio (num den : Nat) : Double :=
  if num = 0 then .finite 0 0
  else
    let exponent := exponentOf num den
    let shifted := scaled num (-exponent)
    let mantissa := roundHalfEven shifted.1 (shifted.2 * den)
    let value := scaled mantissa exponent
    if value.2 <<< 1024 ≤ value.1 then .infinite else .finite mantissa exponent

/-- The double nearest to `digits * 10 ^ exponent`. A value far outside the range of doubles is
settled by its number of digits. -/
def ofDecimal (digits : Nat) (exponent : Int) : Double :=
  if digits = 0 then .finite 0 0
  else
    let magnitude := ((Nat.toDigits 10 digits).length : Int) + exponent
    if 400 < magnitude then .infinite
    else if magnitude < -400 then .finite 0 0
    else if 0 ≤ exponent then ofRatio (digits * Nat.pow 10 exponent.toNat) 1
    else ofRatio digits (Nat.pow 10 (-exponent).toNat)

def times : Double → Double → Double
  | .finite m e, .finite n f =>
    let value := scaled (m * n) (e + f)
    ofRatio value.1 value.2
  | _, _ => .infinite

/-- Whether the first number is at most the second. -/
def atMost : Double → Double → Bool
  | .finite m e, .finite n f =>
    let a := scaled m e
    let b := scaled n f
    a.1 * b.2 ≤ b.1 * a.2
  | _, .infinite => true
  | .infinite, .finite _ _ => false

def isZero : Double → Bool
  | .finite m _ => m == 0
  | .infinite => false

/-- A whole number of 64 bits, the greatest one standing for all above it. -/
def saturate (n : Nat) : UInt64 := UInt64.ofNat (min n (UInt64.size - 1))

/-- The nearest whole number, a half going up, held to 64 bits. -/
def roundToWord : Double → UInt64
  | .finite m e =>
    let value := scaled m e
    saturate ((2 * value.1 + value.2) / (2 * value.2))
  | .infinite => saturate UInt64.size

/-- The whole part, held to 64 bits. -/
def truncateToWord : Double → UInt64
  | .finite m e =>
    let value := scaled m e
    saturate (value.1 / value.2)
  | .infinite => saturate UInt64.size

end Double

end GpuManagement
