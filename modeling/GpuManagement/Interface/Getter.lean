import GpuManagement.Session.Basic

/-!
# Calls that get and set

The interface passes selectors as plain numbers. A `Getter` is a call that hands over a value: with
a place for the value it makes a reading, without one it only asks whether the call is supported.
A `Change` is a call that sets something.
-/

namespace GpuManagement

/-- How a call is asked whether it is supported. -/
inductive Probe where
  /-- Nothing is known about the call. -/
  | unlisted
  | call (name : String)
  | variant (name : String) (variant : UInt64)
  /-- The call for a sensor, counted from zero. -/
  | sensor (name : String) (sensor : UInt32)
  | temperature (sensor metric : UInt32)
  | voltage (sensor metric : UInt32)
  deriving DecidableEq, Repr

namespace Probe

/-- The variant and the sensor that are asked for; labelled sensors must be there. -/
def selectors (p : Probe) (s : Session) (t : Tree) (dv : UInt32) :
    Outcome (Option (String × UInt64 × UInt64)) :=
  match p with
  | unlisted => .ok none
  | call name => .ok (some (name, anyVariant, anyVariant))
  | .variant name id => .ok (some (name, id, anyVariant))
  | .sensor name number => .ok (some (name, anyVariant, (sensorIndex number).toUInt64))
  | temperature kind metric => do
    let place ← Outcome.ofOption .invalidArgs (TempSensor.ofNumber? kind)
    let index ← s.read t dv (.temperatureIndex place)
    .ok (some ("rsmi_dev_temp_metric_get", metric.toUInt64, UInt32.toUInt64 index))
  | voltage kind metric => do
    let place ← Outcome.ofOption .invalidArgs (VoltSensor.ofNumber? kind)
    let index ← s.read t dv (.voltageIndex place)
    .ok (some ("rsmi_dev_volt_metric_get", metric.toUInt64, UInt32.toUInt64 index))

/-- The outcome of asking, and the session that knows what the device supports. -/
def run (p : Probe) (s : Session) (t : Tree) (dv : UInt32) : Outcome Unit × Session :=
  match p.selectors s t dv with
  | .error e => (.error e, s)
  | .ok none => (.ok (), s)
  | .ok (some (name, id, number)) => s.supports t dv name id number

end Probe

/-- A call that hands over a value of a device. -/
inductive Getter where
  | deviceId
  | vendorId
  | subsystemId
  | subsystemVendorId
  | pciId
  | renderMinor
  | uniqueId
  | numaAffinity
  | overdriveLevel
  | busy
  | memoryBusy
  | replayCount
  | errorFeatures
  | xgmiErrors
  | busTable
  | metrics
  | maxPower
  | serialNumber
  | vbiosVersion
  | vramVendor
  | computePartition
  | memoryPartition
  | perfLevel
  | clockTable (clock : UInt32)
  | busTraffic
  | memoryTotal (memory : UInt32)
  | memoryUsed (memory : UInt32)
  | firmwareVersion (block : UInt32)
  | errorCount (block : UInt64)
  | temperature (sensor metric : UInt32)
  | voltage (sensor metric : UInt32)
  | fanRpms (fan : UInt32)
  | fanSpeed (fan : UInt32)
  | fanSpeedMax (fan : UInt32)
  | powerAverage (sensor : UInt32)
  | powerCap (sensor : UInt32)
  | powerCapRange (sensor : UInt32)
  | availableCounters (group : UInt32)
  deriving DecidableEq, Repr

namespace Getter

/-- The getters, the ones that take selectors with these. -/
def all (a b : UInt64) : List Getter :=
  [deviceId, vendorId, subsystemId, subsystemVendorId, pciId, renderMinor, uniqueId, numaAffinity,
    overdriveLevel, busy, memoryBusy, replayCount, errorFeatures, xgmiErrors, busTable, metrics,
    maxPower, serialNumber, vbiosVersion, vramVendor, computePartition, memoryPartition, perfLevel,
    clockTable a.toUInt32, busTraffic, memoryTotal a.toUInt32, memoryUsed a.toUInt32,
    firmwareVersion a.toUInt32, errorCount a, temperature a.toUInt32 b.toUInt32,
    voltage a.toUInt32 b.toUInt32, fanRpms a.toUInt32, fanSpeed a.toUInt32,
    fanSpeedMax a.toUInt32, powerAverage a.toUInt32, powerCap a.toUInt32,
    powerCapRange a.toUInt32, availableCounters a.toUInt32]

/-- The name a getter is called by. -/
def name : Getter → String
  | deviceId => "rsmi_dev_id_get"
  | vendorId => "rsmi_dev_vendor_id_get"
  | subsystemId => "rsmi_dev_subsystem_id_get"
  | subsystemVendorId => "rsmi_dev_subsystem_vendor_id_get"
  | pciId => "rsmi_dev_pci_id_get"
  | renderMinor => "rsmi_dev_drm_render_minor_get"
  | uniqueId => "rsmi_dev_unique_id_get"
  | numaAffinity => "rsmi_topo_numa_affinity_get"
  | overdriveLevel => "rsmi_dev_overdrive_level_get"
  | busy => "rsmi_dev_busy_percent_get"
  | memoryBusy => "rsmi_dev_memory_busy_percent_get"
  | replayCount => "rsmi_dev_pci_replay_counter_get"
  | errorFeatures => "rsmi_dev_ecc_enabled_get"
  | xgmiErrors => "rsmi_dev_xgmi_error_status"
  | busTable => "rsmi_dev_pci_bandwidth_get"
  | metrics => "rsmi_dev_gpu_metrics_info_get"
  | maxPower => "rsmi_dev_power_max_get"
  | serialNumber => "rsmi_dev_serial_number_get"
  | vbiosVersion => "rsmi_dev_vbios_version_get"
  | vramVendor => "rsmi_dev_vram_vendor_get"
  | computePartition => "rsmi_dev_compute_partition_get"
  | memoryPartition => "rsmi_dev_memory_partition_get"
  | perfLevel => "rsmi_dev_perf_level_get"
  | clockTable _ => "rsmi_dev_gpu_clk_freq_get"
  | busTraffic => "rsmi_dev_pci_throughput_get"
  | memoryTotal _ => "rsmi_dev_memory_total_get"
  | memoryUsed _ => "rsmi_dev_memory_usage_get"
  | firmwareVersion _ => "rsmi_dev_firmware_version_get"
  | errorCount _ => "rsmi_dev_ecc_count_get"
  | temperature _ _ => "rsmi_dev_temp_metric_get"
  | voltage _ _ => "rsmi_dev_volt_metric_get"
  | fanRpms _ => "rsmi_dev_fan_rpms_get"
  | fanSpeed _ => "rsmi_dev_fan_speed_get"
  | fanSpeedMax _ => "rsmi_dev_fan_speed_max_get"
  | powerAverage _ => "rsmi_dev_power_ave_get"
  | powerCap _ => "rsmi_dev_power_cap_get"
  | powerCapRange _ => "rsmi_dev_power_cap_range_get"
  | availableCounters _ => "rsmi_counter_available_counters_get"

def ofName? (name : String) (a b : UInt64) : Option Getter :=
  (all a b).find? fun g => g.name = name

def selectorCount : Getter → Nat
  | clockTable _ | memoryTotal _ | memoryUsed _ | firmwareVersion _ | errorCount _ | fanRpms _
  | fanSpeed _ | fanSpeedMax _ | powerAverage _ | powerCap _ | powerCapRange _
  | availableCounters _ => 1
  | temperature _ _ | voltage _ _ => 2
  | _ => 0

/-- How many places a getter needs for its value, one for each number that stands by itself. -/
def placeCount : Getter → Nat
  | busTraffic => 3
  | powerCapRange _ => 2
  | _ => 1

/-- How a getter is asked whether it is supported. -/
def probe (g : Getter) : Probe :=
  match g with
  | maxPower => .unlisted
  | clockTable id | memoryTotal id | memoryUsed id | firmwareVersion id | availableCounters id =>
    .variant g.name id.toUInt64
  | errorCount block => .variant g.name block
  | temperature sensor metric => .temperature sensor metric
  | voltage sensor metric => .voltage sensor metric
  | fanRpms i | fanSpeed i | fanSpeedMax i | powerAverage i | powerCap i | powerCapRange i =>
    .sensor g.name i
  | _ => .call g.name

/-- The reading that a getter makes, if its selectors are known. -/
def reading? : Getter → Option Reading
  | deviceId => some .deviceId
  | vendorId => some .vendorId
  | subsystemId => some .subsystemId
  | subsystemVendorId => some .subsystemVendorId
  | pciId => some .pciId
  | renderMinor => some .renderMinor
  | uniqueId => some .uniqueId
  | numaAffinity => some .numaAffinity
  | overdriveLevel => some .overdriveLevel
  | busy => some .busy
  | memoryBusy => some .memoryBusy
  | replayCount => some .replayCount
  | errorFeatures => some .errorFeatures
  | xgmiErrors => some .xgmiErrors
  | busTable => some .busTable
  | metrics => some .metrics
  | maxPower => some .maxPower
  | serialNumber => some .serialNumber
  | vbiosVersion => some .vbiosVersion
  | vramVendor => some .vramVendor
  | computePartition => some .computePartition
  | memoryPartition => some .memoryPartition
  | perfLevel => some .perfLevel
  | clockTable clock => (ClockType.ofNumber? clock).map .clockTable
  | busTraffic => some .busTraffic
  | memoryTotal memory => (MemoryType.ofNumber? memory).map .memoryTotal
  | memoryUsed memory => (MemoryType.ofNumber? memory).map .memoryUsed
  | firmwareVersion block => some (.firmwareVersion block)
  | errorCount block => some (.errorCount block)
  | temperature sensor metric => do
    let sensor ← TempSensor.ofNumber? sensor
    let metric ← TempMetric.ofNumber? metric
    some (.temperature sensor metric)
  | voltage sensor metric => do
    let sensor ← VoltSensor.ofNumber? sensor
    let metric ← VoltMetric.ofNumber? metric
    some (.voltage sensor metric)
  | fanRpms fan => some (.fanRpms fan)
  | fanSpeed fan => some (.fanSpeed fan)
  | fanSpeedMax fan => some (.fanSpeedMax fan)
  | powerAverage sensor => some (.powerAverage sensor)
  | powerCap sensor => some (.powerCap sensor)
  | powerCapRange sensor => some (.powerCapRange sensor)
  | availableCounters group => some (.availableCounters group)

end Getter

/-- A reading and what it answered. -/
structure Answer where
  reading : Reading
  value : reading.Value

/-- Whether the place for a value has room for it: the count of free counters has four bytes. -/
def Answer.fits : Answer → Bool
  | ⟨.availableCounters _, value⟩ => UInt64.toNat value < UInt32.size
  | _ => true

namespace Getter

/-- The answer of a getter for a device. -/
def answer (g : Getter) (s : Session) (t : Tree) (dv : UInt32) : Outcome Answer := do
  let r ← Outcome.ofOption .invalidArgs g.reading?
  let value ← s.read t dv r
  let a : Answer := ⟨r, value⟩
  if a.fits then .ok a else .fail .unexpectedData

/-- A call of a getter, with a place for the value or without. -/
def call (g : Getter) (s : Session) (t : Tree) (now : Nat) (dv : UInt32) (hasPlace : Bool) :
    Outcome Answer × Session :=
  if hasPlace then
    (g.answer s t dv,
      match g.reading? with
      | some r => s.afterReading t now dv r
      | none => s)
  else
    match g.probe.run s t dv with
    | (.error e, s) => (.error e, s)
    | (.ok (), s) => (.fail .invalidArgs, s)

end Getter

/-- A call that sets something, its selectors as plain numbers. -/
inductive Change where
  | perfLevel (level : UInt32)
  | overdriveLevel (level : UInt32)
  | clockLevels (clock : UInt32) (mask : UInt64)
  | busLevels (mask : UInt64)
  | powerProfile (profile : UInt64)
  | fanReset (fan : UInt32)
  | fanSpeed (fan : UInt32) (speed : UInt64)
  | powerCap (sensor : UInt32) (cap : UInt64)
  deriving DecidableEq, Repr

namespace Change

def all (a b : UInt64) : List Change :=
  [perfLevel a.toUInt32, overdriveLevel a.toUInt32, clockLevels a.toUInt32 b, busLevels a,
    powerProfile b, fanReset a.toUInt32, fanSpeed a.toUInt32 b, powerCap a.toUInt32 b]

/-- The name a change is called by. -/
def name : Change → String
  | perfLevel _ => "rsmi_dev_perf_level_set"
  | overdriveLevel _ => "rsmi_dev_overdrive_level_set"
  | clockLevels _ _ => "rsmi_dev_gpu_clk_freq_set"
  | busLevels _ => "rsmi_dev_pci_bandwidth_set"
  | powerProfile _ => "rsmi_dev_power_profile_set"
  | fanReset _ => "rsmi_dev_fan_reset"
  | fanSpeed _ _ => "rsmi_dev_fan_speed_set"
  | powerCap _ _ => "rsmi_dev_power_cap_set"

/-- The change with a name. The first argument of a change of the power profile is not used. -/
def ofName? (name : String) (a b : UInt64) : Option Change :=
  (all a b).find? fun c => c.name = name

/-- The setting that a change makes, if its selectors are known. -/
def setting? : Change → Option Setting
  | perfLevel level => (PerfLevel.ofNumber? level.toUInt64).map .perfLevel
  | overdriveLevel level => some (.overdriveLevel level)
  | clockLevels clock mask => (ClockType.ofNumber? clock).map (.clockLevels · mask)
  | busLevels mask => some (.busLevels mask)
  | powerProfile profile => some (.powerProfile profile)
  | fanReset fan => some (.fanReset fan)
  | fanSpeed fan speed => some (.fanSpeed fan speed)
  | powerCap sensor cap => some (.powerCap sensor cap)

end Change

end GpuManagement
