import GpuManagement.Files.Read
import GpuManagement.Number.Decimal
import GpuManagement.Number.Double

/-!
# The power report

The debug directory of a card holds a report with a line on the greatest power of the chip, in
watts. The line is there for privileged readers only, so a report without it is a refusal.
-/

namespace GpuManagement

open Text

/-- Where the power report of a card is. -/
structure PowerReport where
  directory : Path
  deriving DecidableEq, Repr

namespace PowerReport

/-- The report of the card with a number. -/
def ofCard (driRoot : Path) (index : UInt32) : PowerReport := ⟨driRoot.childNumber index.toNat⟩

/-- What marks the line on the greatest power. -/
def mark : List Char := "(max GPU)".toList

/-- The most watts whose thousandfold fits 64 bits. -/
def maxWatts : Double := Double.ofRatio UInt64.size 1000

/-- Watts in thousandths, without what is less than one. A number below zero that is not zero after
rounding is out of range, as are infinity and what is no number. -/
def milliwatts? : Decimal → Option UInt64
  | .number negative digits exponent =>
    let watts := Double.ofDecimal digits exponent
    if (negative && !watts.isZero) || !watts.atMost maxWatts then none
    else some (watts.times (.finite 1000 0)).truncateToWord
  | .infinite _ => none
  | .notANumber => none

/-- The greatest power in milliwatts that a report names: its first marked line begins with a
number and the unit `W`. -/
def maxPowerIn (report : List Char) : Outcome UInt64 :=
  match (lines report).find? (contains mark) with
  | none => .fail .notSupported
  | some line =>
    match words line with
    | number :: unit :: _ =>
      match (Decimal.read? number).map milliwatts? with
      | some (some power) => if unit = ['W'] then .ok power else .fail .unexpectedData
      | _ => .fail .unexpectedData
    | _ => .fail .unexpectedData

def maxPower (r : PowerReport) (t : Tree) : Outcome UInt64 := do
  let file := r.directory.child "amdgpu_pm_info"
  let report ← Files.readText t file
  match maxPowerIn report with
  | .error (.status .notSupported) => .error (.access file .notPermitted)
  | outcome => outcome

end PowerReport

end GpuManagement
