import GpuManagement.Device.Attribute

/-!
# Selectors

The small numbered choices that calls take: a performance level, a clock, a kind of memory.
-/

namespace GpuManagement

/-- How the clocks of a card are governed. -/
inductive PerfLevel where
  | auto
  | low
  | high
  | manual
  | stableStd
  | stablePeak
  | stableMinMclk
  | stableMinSclk
  | unknown
  deriving DecidableEq, Repr

namespace PerfLevel

/-- The levels that can be set, by ascending number. -/
def known : List PerfLevel :=
  [auto, low, high, manual, stableStd, stablePeak, stableMinMclk, stableMinSclk]

def number : PerfLevel → UInt64
  | auto => 0
  | low => 1
  | high => 2
  | manual => 3
  | stableStd => 4
  | stablePeak => 5
  | stableMinMclk => 6
  | stableMinSclk => 7
  | unknown => 0x100

/-- The word the driver uses for a level. -/
def keyword : PerfLevel → String
  | auto => "auto"
  | low => "low"
  | high => "high"
  | manual => "manual"
  | stableStd => "profile_standard"
  | stablePeak => "profile_peak"
  | stableMinMclk => "profile_min_mclk"
  | stableMinSclk => "profile_min_sclk"
  | unknown => "unknown"

/-- The level a word names; an unfamiliar word is no error. -/
def ofKeyword (word : String) : PerfLevel :=
  (known.find? fun l => l.keyword = word).getD unknown

/-- The level with a number, among those that can be set. -/
def ofNumber? (n : UInt64) : Option PerfLevel := known.find? fun l => l.number = n

/-- A level is found by its word. -/
theorem ofKeyword_keyword (l : PerfLevel) : ofKeyword l.keyword = l := by
  cases l <;> decide +kernel

end PerfLevel

/-- A clock of a card. -/
inductive ClockType where
  | sys
  | df
  | dcef
  | soc
  | mem
  deriving DecidableEq, Repr

namespace ClockType

/-- The clocks in the order of their numbers. -/
def all : List ClockType := [sys, df, dcef, soc, mem]

def number (c : ClockType) : Nat := all.idxOf c

def ofNumber? (n : UInt32) : Option ClockType := all[n.toNat]?

/-- The attribute that holds the frequency table of a clock. -/
def tableAttribute : ClockType → Attribute
  | sys => .gpuSClk
  | df => .fClk
  | dcef => .dcefClk
  | soc => .socClk
  | mem => .gpuMClk

end ClockType

/-- A kind of memory of a card. -/
inductive MemoryType where
  | vram
  | visVram
  | gtt
  deriving DecidableEq, Repr

namespace MemoryType

/-- The kinds of memory in the order of their numbers. -/
def all : List MemoryType := [vram, visVram, gtt]

/-- The number of a kind of memory. -/
def number (m : MemoryType) : Nat := all.idxOf m

/-- The kind of memory with a number. -/
def ofNumber? (n : UInt32) : Option MemoryType := all[n.toNat]?

def totalAttribute : MemoryType → Attribute
  | vram => .memTotVram
  | visVram => .memTotVisVram
  | gtt => .memTotGtt

/-- The attribute that holds the amount in use. -/
def usedAttribute : MemoryType → Attribute
  | vram => .memUsedVram
  | visVram => .memUsedVisVram
  | gtt => .memUsedGtt

end MemoryType

end GpuManagement
