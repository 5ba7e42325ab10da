import GpuManagement.Device.Basic
import GpuManagement.Device.Frequency
import GpuManagement.Device.Report

/-!
# Readings

Everything a session can be asked about a device is a `Reading`. Its value has a type of its own,
`Device.read` takes it from the files of the device, and `Reading.needsLock` tells which readings
wait for the device.
-/

namespace GpuManagement

open Text

/-- How many errors the links between cards had. -/
inductive XgmiErrors where
  | none
  | one
  | several
  deriving DecidableEq, Repr

def XgmiErrors.number : XgmiErrors → Nat
  | none => 0
  | one => 1
  | several => 2

/-- Something to be asked about a device. -/
inductive Reading where
  | pciId
  | renderMinor
  | deviceId
  | vendorId
  | subsystemId
  | subsystemVendorId
  | uniqueId
  | serialNumber
  | vbiosVersion
  | vramVendor
  | computePartition
  | memoryPartition
  | numaAffinity
  | perfLevel
  | overdriveLevel
  | clockTable (clock : ClockType)
  | busTable
  | busTraffic
  | replayCount
  | memoryTotal (memory : MemoryType)
  | memoryUsed (memory : MemoryType)
  | memoryBusy
  | busy
  | retiredPages
  | firmwareVersion (block : UInt32)
  | errorCount (block : UInt64)
  | errorFeatures
  | xgmiErrors
  | xgmiReset
  | temperatureIndex (sensor : TempSensor)
  | voltageIndex (sensor : VoltSensor)
  | temperature (sensor : TempSensor) (metric : TempMetric)
  | voltage (sensor : VoltSensor) (metric : VoltMetric)
  | fanRpms (fan : UInt32)
  | fanSpeed (fan : UInt32)
  | fanSpeedMax (fan : UInt32)
  | powerAverage (sensor : UInt32)
  | powerCap (sensor : UInt32)
  | powerCapRange (sensor : UInt32)
  | maxPower
  | metrics
  | metricsTable
  | availableCounters (group : UInt32)
  deriving DecidableEq, Repr

namespace Reading

def Value : Reading → Type
  | deviceId | vendorId | subsystemId | subsystemVendorId => UInt16
  | renderMinor | overdriveLevel | memoryBusy | busy | temperatureIndex _ | voltageIndex _ => UInt32
  | serialNumber | vbiosVersion | vramVendor | computePartition | memoryPartition => List Char
  | numaAffinity | temperature _ _ | voltage _ _ | fanRpms _ | fanSpeed _ => Int
  | perfLevel => PerfLevel
  | clockTable _ | busTable => FrequencyTable
  | busTraffic => Throughput
  | retiredPages => List RetiredPage
  | errorCount _ => ErrorCount
  | xgmiErrors => XgmiErrors
  | xgmiReset => Unit
  | powerCapRange _ => UInt64 × UInt64
  | metrics => GpuMetrics
  | metricsTable => Bytes
  | pciId | uniqueId | replayCount | memoryTotal _ | memoryUsed _ | firmwareVersion _
  | errorFeatures | fanSpeedMax _ | powerAverage _ | powerCap _ | maxPower
  | availableCounters _ => UInt64

/-- Whether a reading waits for the device; the others need no file. -/
def needsLock : Reading → Bool
  | pciId | renderMinor | temperatureIndex _ | voltageIndex _ => false
  | _ => true

end Reading

/-- Sensor files count from one where calls count from zero; the last number stands for itself. -/
def sensorIndex (sensor : UInt32) : UInt32 := if sensor = 0xFFFFFFFF then sensor else sensor + 1

namespace Device

/-- A number of two bytes from an attribute. -/
def readHalf (d : Device) (t : Tree) (a : Attribute) : Outcome UInt16 := do
  let value ← d.readNumber t a
  let n ← narrowed 16 value
  .ok (UInt16.ofNat n)

def readTable (d : Device) (t : Tree) (a : Attribute) : Outcome FrequencyTable := do
  let ls ← d.readLines t a
  FrequencyTable.ofLines ls

/-- A share of a hundred from an attribute. -/
def readPercentage (d : Device) (t : Tree) (a : Attribute) : Outcome UInt32 := do
  let value ← d.readNumber t a
  percentage value

/-- The number of the memory node a card belongs to, which may be below zero. -/
def readNumaAffinity (d : Device) (t : Tree) : Outcome Int := do
  let line ← d.readLine t .numaNode
  let text := trim line
  if text.isEmpty then .fail .noData else .ofOption .unexpectedData (readSigned? 32 text)

/-- The state of the links between cards. -/
def readXgmiErrors (d : Device) (t : Tree) : Outcome XgmiErrors := do
  let value ← d.readNumber t .xgmiError
  .ok (if value = 0 then .none else if value = 1 then .one else .several)

/-- A reading without sign of a numbered sensor. -/
def readSensor (d : Device) (t : Tree) (file : SensorFile) (sensor : UInt32) : Outcome UInt64 := do
  let m ← d.requireMonitor
  m.readDecimal t file (sensorIndex sensor)

/-- A reading with a sign of a numbered sensor. -/
def readSignedSensor (d : Device) (t : Tree) (file : SensorFile) (sensor : UInt32) :
    Outcome Int := do
  let m ← d.requireMonitor
  m.readSigned t file (sensorIndex sensor)

def readMetrics (d : Device) (t : Tree) : Outcome GpuMetrics := do
  let b ← d.metricsTable t
  let (_, metrics) ← GpuMetrics.decode b
  .ok metrics

/-- What a reading answers about a device. -/
def read (d : Device) (t : Tree) : (r : Reading) → Outcome r.Value
  | .pciId => .ok d.address
  | .renderMinor => if d.renderMinor = 0 then .fail .initError else .ok d.renderMinor
  | .deviceId => d.readHalf t .devId
  | .vendorId => d.readHalf t .vendorId
  | .subsystemId => d.readHalf t .subSysDevId
  | .subsystemVendorId => d.readHalf t .subSysVendorId
  | .uniqueId => d.readNumber t .uniqueId
  | .serialNumber => d.readToken t .serialNumber
  | .vbiosVersion => d.readToken t .vBiosVer
  | .vramVendor => d.readToken t .vramVendor
  | .computePartition => d.readToken t .computePartition
  | .memoryPartition => d.readToken t .memoryPartition
  | .numaAffinity => d.readNumaAffinity t
  | .perfLevel => do
    let word ← d.readToken t .perfLevel
    .ok (PerfLevel.ofKeyword (String.ofList word))
  | .overdriveLevel => do
    let value ← d.readNumber t .overDriveLevel
    let n ← narrowed 32 value
    .ok (UInt32.ofNat n)
  | .clockTable clock => d.readTable t clock.tableAttribute
  | .busTable => d.readTable t .pcieClk
  | .busTraffic => do
    let line ← d.readLine t .pcieThroughput
    Throughput.ofLine line
  | .replayCount => d.readNumber t .pcieReplayCount
  | .memoryTotal memory => d.readNumber t memory.totalAttribute
  | .memoryUsed memory => d.readNumber t memory.usedAttribute
  | .memoryBusy => d.readPercentage t .memBusyPercent
  | .busy => d.readPercentage t .usage
  | .retiredPages => do
    let ls ← d.readLines t .memPageBad
    RetiredPage.ofLines ls
  | .firmwareVersion block => do
    let a ← Outcome.ofOption .invalidArgs Attribute.firmwareBlocks[block.toNat]?
    d.readNumber t a
  | .errorCount block => do
    let a ← Outcome.ofOption .invalidArgs (Attribute.ofErrorBlock? block)
    let ls ← d.readLines t a
    ErrorCount.ofLines ls
  | .errorFeatures => do
    let line ← d.readLine t .errCntFeatures
    featureMask line
  | .xgmiErrors => d.readXgmiErrors t
  | .xgmiReset => do
    let _ ← d.readNumber t .xgmiError
    .ok ()
  | .temperatureIndex sensor => do
    let m ← d.requireMonitor
    m.temperatureIndex sensor
  | .voltageIndex sensor => do
    let m ← d.requireMonitor
    m.voltageIndex sensor
  | .temperature sensor metric => do
    let m ← d.requireMonitor
    let index ← m.temperatureIndex sensor
    m.readSigned t (.temp metric) index
  | .voltage sensor metric => do
    let m ← d.requireMonitor
    let index ← m.voltageIndex sensor
    m.readSigned t (.volt metric) index
  | .fanRpms fan => d.readSignedSensor t .fanRpms fan
  | .fanSpeed fan => d.readSignedSensor t .fanSpeed fan
  | .fanSpeedMax fan => d.readSensor t .maxFanSpeed fan
  | .powerAverage sensor => d.readSensor t .powerAverage sensor
  | .powerCap sensor => d.readSensor t .powerCap sensor
  | .powerCapRange sensor => do
    let most ← d.readSensor t .powerCapMax sensor
    let least ← d.readSensor t .powerCapMin sensor
    .ok (most, least)
  | .maxPower => d.powerReport.maxPower t
  | .metrics => d.readMetrics t
  | .metricsTable => d.metricsTable t
  | .availableCounters _ => d.readNumber t .dfCountersAvailable

end Device

end GpuManagement
