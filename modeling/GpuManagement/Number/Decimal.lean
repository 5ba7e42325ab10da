import GpuManagement.Text.Numeral

/-!
# Decimal fractions in text

A decimal fraction is an optional sign, digits with at most one point among them, and an optional
exponent of ten; one digit is enough, on either side of the point. The words for infinity and for
"not a number" are values too, in any case.
-/

namespace GpuManagement

/-- What a decimal text says, before any rounding. -/
inductive Decimal where
  /-- `digits * 10 ^ exponent`, with its sign. -/
  | number (negative : Bool) (digits : Nat) (exponent : Int)
  | infinite (negative : Bool)
  | notANumber
  deriving DecidableEq, Repr

namespace Decimal

open Text

/-- The power of ten after an exponent mark: a sign and one or more digits. -/
def readPower? : List Char → Option Int
  | '-' :: cs => (readNat? 10 cs).map fun n => -(n : Int)
  | '+' :: cs => (readNat? 10 cs).map Int.ofNat
  | cs => (readNat? 10 cs).map Int.ofNat

/-- The exponent part: nothing, or a mark and a power. -/
def readExponent? : List Char → Option Int
  | [] => some 0
  | 'e' :: cs => readPower? cs
  | 'E' :: cs => readPower? cs
  | _ => none

/-- The digits after a point, if there is one, and the rest of the text. -/
def fraction : List Char → List Char × List Char
  | '.' :: cs => (cs.takeWhile isDigit, cs.dropWhile isDigit)
  | cs => ([], cs)

/-- Digits with at most one point, and an optional exponent. -/
def readUnsigned? (cs : List Char) : Option (Nat × Int) :=
  let whole := cs.takeWhile isDigit
  let (after, rest) := fraction (cs.dropWhile isDigit)
  match readNat? 10 (whole ++ after), readExponent? rest with
  | some digits, some power => some (digits, power - after.length)
  | _, _ => none

/-- The sign of a text and what follows it. -/
def sign : List Char → Bool × List Char
  | '-' :: cs => (true, cs)
  | '+' :: cs => (false, cs)
  | cs => (false, cs)

def read? (cs : List Char) : Option Decimal :=
  let (negative, body) := sign cs
  let word := body.map Char.toLower
  if word = ['i', 'n', 'f'] ∨ word = ['i', 'n', 'f', 'i', 'n', 'i', 't', 'y'] then
    some (.infinite negative)
  else if word = ['n', 'a', 'n'] then some .notANumber
  else (readUnsigned? body).map fun value => .number negative value.1 value.2

end Decimal

end GpuManagement
