import GpuManagement.Error
import GpuManagement.Number.Decimal
import GpuManagement.Number.Double
import GpuManagement.Text.Blank

/-!
# Frequency tables

A clock of a card is shown as a table with a level on each line: an index, a frequency with its
unit, a star at the current level, and for the bus the number of lanes. `FrequencyTable.ofLines`
reads a table, `levelSelection` writes the choice of levels that a bit mask makes.
-/

namespace GpuManagement

open Text

/-- One level of a table. -/
structure FrequencyLevel where
  /-- In hertz, or in transfers per second. -/
  frequency : UInt64
  isCurrent : Bool
  lanes : Option UInt32
  deriving DecidableEq, Repr

/-- The factor that the first character of a unit stands for. -/
def unitMultiplier? (c : Char) : Option Nat :=
  if c = 'G' then some 1000000000
  else if c = 'M' then some 1000000
  else if c = 'K' ∨ c = 'V' then some 1000
  else if c = 'T' ∨ c = 'H' ∨ c = 'm' then some 1
  else none

namespace FrequencyLevel

/-- The characters a frequency is written with. -/
def isNumberPart (c : Char) : Bool := isDigit c || c == '.'

/-- The lanes in the words after a unit: the number after the first `x`, what follows its last
digit aside. -/
def lanesOf (after : List (List Char)) : Option UInt32 :=
  match after.findSome? fun word => ['x'].isPrefixOf? word with
  | some number => readU32? 10 (number.reverse.dropWhile fun c => !isDigit c).reverse
  | none => none

/-- The number, the unit and the later words of a line after its index. -/
def parts (body : List Char) :
    Except FrequencyProblem (List Char × List Char × List (List Char)) :=
  match words body with
  | [] => .error .missingValue
  | value :: after =>
    let number := value.takeWhile isNumberPart
    match value.dropWhile isNumberPart, after with
    | [], [] => .error .missingUnit
    | [], unit :: after => .ok (number, unit, after)
    | unit, after => .ok (number, unit, after)

/-- The frequency that a number and a unit write, to the nearest whole one. -/
def valueOf (number unit : List Char) : Except FrequencyProblem UInt64 :=
  match Decimal.readUnsigned? number with
  | none => .error .badValue
  | some (digits, power) =>
    match unit.head?.bind unitMultiplier? with
    | none => .error .unexpectedUnit
    | some factor =>
      .ok ((Double.ofDecimal digits power).times (.finite factor 0)).roundToWord

/-- A level, or what is wrong with its line. -/
def read (line : List Char) : Except FrequencyProblem FrequencyLevel := do
  match cut (· = ':') line with
  | none => .error .missingIndex
  | some (_, body) =>
    let (number, unit, after) ← parts body
    let frequency ← valueOf number unit
    .ok ⟨frequency, line.contains '*', lanesOf after⟩

/-- The level that a line of a table writes. -/
def ofLine (line : List Char) : Outcome FrequencyLevel :=
  match read line with
  | .ok level => .ok level
  | .error problem => .error (.malformed "frequency table" (.frequencyLine problem line))

end FrequencyLevel

/-- The levels of a clock and the place of the current one. -/
structure FrequencyTable where
  levels : List FrequencyLevel
  current : Nat
  deriving DecidableEq, Repr

namespace FrequencyTable

/-- A table has no more levels than this. -/
def maxLevels : Nat := 32

/-- The place of the last current level. -/
def currentOf (levels : List FrequencyLevel) : Option Nat :=
  levels.zipIdx.foldl (fun found row => if row.1.isCurrent then some row.2 else found) none

/-- The table that lines write; blank lines do not count. Every line up to the limit is read before
the number of lines is judged. -/
def ofLines (ls : List (List Char)) : Outcome FrequencyTable := do
  let rows := ls.filter fun line => !allBlank line
  let levels ← (rows.take maxLevels).mapM FrequencyLevel.ofLine
  if maxLevels < rows.length then .fail .unexpectedSize
  else if levels.isEmpty then .fail .notYetImplemented
  else
    match currentOf levels with
    | some current => .ok ⟨levels, current⟩
    | none => .fail .notSupported

def count (t : FrequencyTable) : Nat := t.levels.length

def frequencies (t : FrequencyTable) : List UInt64 := t.levels.map (·.frequency)

/-- The lanes in order, zero where a level names none. -/
def lanes (t : FrequencyTable) : List UInt32 := t.levels.map fun level => level.lanes.getD 0

/-- The frequency in a slot; slots after the last level are zero. -/
def frequencyAt (t : FrequencyTable) (slot : Nat) : UInt64 := t.frequencies.getD slot 0

/-- The lanes in a slot; slots after the last level are zero. -/
def lanesAt (t : FrequencyTable) (slot : Nat) : UInt32 := t.lanes.getD slot 0

end FrequencyTable

/-- The places below `count` whose bit is set in a mask, ascending. -/
def selectedLevels (mask : UInt64) (count : Nat) : List Nat :=
  (List.range (min count 64)).filter fun i => mask.toNat.testBit i

/-- The selected levels as the driver takes them, separated by spaces; selecting none is an
error. -/
def levelSelection (mask : UInt64) (count : Nat) : Outcome String :=
  match selectedLevels mask count with
  | [] => .fail .invalidArgs
  | picked => .ok (String.ofList (joinWith [' '] (picked.map decimal)))

end GpuManagement
