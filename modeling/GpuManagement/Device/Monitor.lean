import GpuManagement.Device.Capability
import GpuManagement.Files.Read

/-!
# Sensors

A card has a directory of sensor files, numbered within their family. Which temperature or voltage
a number stands for is told by its label. A directory without temperature labels has one sensor,
the one at the edge of the chip.
-/

namespace GpuManagement

open Text

/-- What is said about a temperature. -/
inductive TempMetric where
  | current
  | max
  | min
  | maxHyst
  | minHyst
  | critical
  | criticalHyst
  | emergency
  | emergencyHyst
  | critMin
  | critMinHyst
  | offset
  | lowest
  | highest
  deriving DecidableEq, Repr

namespace TempMetric

/-- The metrics in the order of their numbers. -/
def all : List TempMetric :=
  [current, max, min, maxHyst, minHyst, critical, criticalHyst, emergency, emergencyHyst, critMin,
    critMinHyst, offset, lowest, highest]

def number (m : TempMetric) : Nat := all.idxOf m

def ofNumber? (n : UInt32) : Option TempMetric := all[n.toNat]?

def pattern (m : TempMetric) : String := Requirement.temperatureFiles.getD m.number ""

end TempMetric

/-- What is said about a voltage. -/
inductive VoltMetric where
  | current
  | max
  | minCrit
  | min
  | maxCrit
  | average
  | lowest
  | highest
  deriving DecidableEq, Repr

namespace VoltMetric

/-- The metrics in the order of their numbers. -/
def all : List VoltMetric := [current, max, minCrit, min, maxCrit, average, lowest, highest]

def number (m : VoltMetric) : Nat := all.idxOf m

def ofNumber? (n : UInt32) : Option VoltMetric := all[n.toNat]?

def pattern (m : VoltMetric) : String := Requirement.voltageFiles.getD m.number ""

end VoltMetric

/-- Where a temperature is measured. -/
inductive TempSensor where
  | edge
  | junction
  | memory
  deriving DecidableEq, Repr

namespace TempSensor

/-- The sensors in the order of their numbers. -/
def all : List TempSensor := [edge, junction, memory]

def number (s : TempSensor) : Nat := all.idxOf s

def ofNumber? (n : UInt32) : Option TempSensor := all[n.toNat]?

def label : TempSensor → List Char
  | edge => "edge".toList
  | junction => "junction".toList
  | memory => "mem".toList

def ofLabel? (label : List Char) : Option TempSensor := all.find? fun s => s.label = label

end TempSensor

/-- Where a voltage is measured. -/
inductive VoltSensor where
  | vddgfx
  deriving DecidableEq, Repr

namespace VoltSensor

/-- The sensors in the order of their numbers. -/
def all : List VoltSensor := [vddgfx]

def number (s : VoltSensor) : Nat := all.idxOf s

def ofNumber? (n : UInt32) : Option VoltSensor := all[n.toNat]?

def label : VoltSensor → List Char
  | vddgfx => "vddgfx".toList

def ofLabel? (label : List Char) : Option VoltSensor := all.find? fun s => s.label = label

end VoltSensor

/-- A file of a sensor directory, up to its index. -/
inductive SensorFile where
  | name
  | temp (metric : TempMetric)
  | tempLabel
  | volt (metric : VoltMetric)
  | voltLabel
  | fanSpeed
  | fanControlEnable
  | maxFanSpeed
  | fanRpms
  | powerCap
  | powerCapMax
  | powerCapMin
  | powerAverage
  deriving DecidableEq, Repr

/-- The name of a file, with a mark for the index. -/
def SensorFile.pattern : SensorFile → String
  | name => "name"
  | temp metric => metric.pattern
  | tempLabel => "temp#_label"
  | volt metric => metric.pattern
  | voltLabel => "in#_label"
  | fanSpeed => "pwm#"
  | fanControlEnable => "pwm#_enable"
  | maxFanSpeed => "pwm#_max"
  | fanRpms => "fan#_input"
  | powerCap => "power#_cap"
  | powerCapMax => "power#_cap_max"
  | powerCapMin => "power#_cap_min"
  | powerAverage => "power#_average"

/-- The sensors of a card: their directory, and which indices the labels name, ascending. -/
structure Monitor where
  directory : Path
  temperatures : List (UInt32 × TempSensor)
  voltages : List (UInt32 × VoltSensor)
  deriving DecidableEq, Repr

namespace Monitor

def filesIn (t : Tree) (directory : Path) : FileSet := ⟨Files.listNames t directory⟩

/-- The path of a file in a sensor directory. -/
def fileIn (directory : Path) (file : SensorFile) (index : UInt32) : Path :=
  directory.child (String.ofList (atIndex file.pattern.toList index))

/-- The indices whose label `sensorOf` knows, each with its sensor. Labels that cannot be read do
not count. -/
def labelled {α : Type} (t : Tree) (directory : Path) (label : SensorFile)
    (sensorOf : List Char → Option α) (indices : List UInt32) : List (UInt32 × α) :=
  indices.filterMap fun index =>
    match Files.readWord t (fileIn directory label index) with
    | .ok word => (sensorOf word).map fun sensor => (index, sensor)
    | .error _ => none

def ofDirectory (t : Tree) (directory : Path) : Monitor :=
  let files := filesIn t directory
  { directory
    temperatures :=
      match files.indices SensorFile.tempLabel.pattern with
      | [] => [(1, .edge)]
      | indices => labelled t directory .tempLabel TempSensor.ofLabel? indices
    voltages :=
      labelled t directory .voltLabel VoltSensor.ofLabel?
        (files.indices SensorFile.voltLabel.pattern) }

/-- The directory of sensors of a card: the first one with the name of a known driver. -/
def find (t : Tree) (card : Path) : Option Path :=
  let root := (card.child "device").child "hwmon"
  ((Files.listNames t root).map root.child).find? fun directory =>
    match Files.readWord t (directory.child "name") with
    | .ok word => word = "radeon".toList ∨ word = "amdgpu".toList
    | .error _ => false

def file (m : Monitor) (file : SensorFile) (index : UInt32) : Path :=
  fileIn m.directory file index

def files (m : Monitor) (t : Tree) : FileSet := filesIn t m.directory

/-- The first word of a sensor file. -/
def readWord (m : Monitor) (t : Tree) (file : SensorFile) (index : UInt32) :
    Outcome (List Char) := Files.readWord t (m.file file index)

def readDecimal (m : Monitor) (t : Tree) (file : SensorFile) (index : UInt32) : Outcome UInt64 :=
  Files.readDecimal t (m.file file index)

def readSigned (m : Monitor) (t : Tree) (file : SensorFile) (index : UInt32) : Outcome Int :=
  Files.readSigned t (m.file file index)

def write (m : Monitor) (t : Tree) (file : SensorFile) (index : UInt32) (text : String) :
    Outcome Tree := Files.writeText t (m.file file index) text

/-- The least index that a label gives to a sensor. -/
def indexOf {α : Type} [DecidableEq α] (sensors : List (UInt32 × α)) (sensor : α) :
    Outcome UInt32 :=
  .ofOption .notSupported ((sensors.find? fun entry => entry.2 = sensor).map Prod.fst)

def temperatureIndex (m : Monitor) (sensor : TempSensor) : Outcome UInt32 :=
  indexOf m.temperatures sensor

def voltageIndex (m : Monitor) (sensor : VoltSensor) : Outcome UInt32 := indexOf m.voltages sensor

/-- The number of the sensor at an index, zero where no label names one. -/
def kindOf (m : Monitor) (family : SensorFamily) (index : UInt32) : UInt64 :=
  UInt64.ofNat <|
    match family with
    | .unlabelled => 0
    | .temperature => ((m.temperatures.lookup index).map TempSensor.number).getD 0
    | .voltage => ((m.voltages.lookup index).map VoltSensor.number).getD 0

end Monitor

end GpuManagement
