import GpuManagement.Data.Table
import GpuManagement.Device.Selector
import GpuManagement.Error
import GpuManagement.Text.Matcher

/-!
# Capabilities

A call is supported by a card when the files it needs are there. A table of requirements lists the
files of each call, a file with a mark standing for a family of sensors; `derive` evaluates a table
against the names that are present. The result lists for each call its variants, and for each
variant the sensors that have all files.
-/

namespace GpuManagement

open Text

/-- The family of sensors whose kind is told by a label. -/
inductive SensorFamily where
  | unlabelled
  | temperature
  | voltage
  deriving DecidableEq, Repr

/-- The files that a call needs. -/
structure Requirement where
  call : String
  /-- Files that must all be there. -/
  mandatory : List String
  /-- Variants of the call, each with the one file it needs; a call need not have any. -/
  variants : List (UInt64 × String)
  family : SensorFamily
  deriving DecidableEq, Repr

/-- The sensors of a variant: the index in the lower sixteen bits, the kind above. -/
abbrev Sensors := List UInt64

/-- The variants of a call. -/
abbrev Variants := Table UInt64 (Option Sensors)

/-- The supported calls by name. -/
abbrev Capabilities := Table String (Option Variants)

/-- The variant, or the sensor, that stands for any. -/
def anyVariant : UInt64 := 0xFFFFFFFFFFFFFFFF

/-! ## Files that are present -/

/-- The names of the files that are present. -/
structure FileSet where
  names : List String
  deriving DecidableEq, Repr

namespace FileSet

def has (s : FileSet) (name : String) : Bool := s.names.contains name

/-- The indices for which a file that fits a pattern is present, ascending; none when the library
refuses the expression for the pattern. -/
def indicesBy (lib : ExpressionLibrary) (s : FileSet) (pattern : String) : List UInt32 :=
  match lib.compile? (lib.source pattern.toList) with
  | none => []
  | some e =>
    (Table.ofEntries (s.names.filterMap fun name =>
      (lib.indexIn? e name.toList).map fun i => (i, ()))).keys

-- Irreducible, since patterns are mostly given texts and terms that hold them would be evaluated.
/-- The indices as the library that runs here finds them. -/
@[irreducible]
def indices (s : FileSet) (pattern : String) : List UInt32 := s.indicesBy .builtIn pattern

end FileSet

/-- Whether a file name stands for a family of sensors. -/
def isSensorFile (file : String) : Bool := isIndexed file.toList

/-! ## Evaluating a table -/

/-- The indices in both lists, or in the second one where the first sets no limit. -/
def within (limit : Option (List UInt32)) (found : List UInt32) : List UInt32 :=
  match limit with
  | none => found
  | some allowed => found.filter allowed.contains

def Sensors.pack (kind : UInt64) (index : UInt32) : UInt64 := (kind <<< 16) ||| index.toUInt64

def Sensors.index (packed : UInt64) : UInt64 := packed &&& 0xFFFF

namespace Requirement

/-- The indices that have every mandatory sensor file; no limit when there is no such file. -/
def limit (r : Requirement) (files : FileSet) : Option (List UInt32) :=
  (r.mandatory.filter isSensorFile).foldl
    (fun limit file => some (within limit (files.indices file))) none

def isMet (r : Requirement) (files : FileSet) : Bool :=
  (r.mandatory.all fun file => isSensorFile file || files.has file) && r.limit files != some []

/-- The sensors with their kinds, which only labelled families have. -/
def sensors (r : Requirement) (kindOf : SensorFamily → UInt32 → UInt64) (indices : List UInt32) :
    Sensors :=
  indices.map fun i =>
    Sensors.pack (if r.family = .unlabelled then 0 else kindOf r.family i) i

/-- A variant with its sensors, when it is available. -/
def available? (r : Requirement) (files : FileSet) (kindOf : SensorFamily → UInt32 → UInt64)
    (variant : UInt64 × String) : Option (UInt64 × Option Sensors) :=
  if isSensorFile variant.2 then
    match within (r.limit files) (files.indices variant.2) with
    | [] => none
    | indices => some (variant.1, some (r.sensors kindOf indices))
  else if files.has variant.2 then some (variant.1, (r.limit files).map (r.sensors kindOf))
  else none

def support? (r : Requirement) (files : FileSet) (kindOf : SensorFamily → UInt32 → UInt64) :
    Option (Option Variants) :=
  if !r.isMet files then none
  else if r.variants.isEmpty then
    some ((r.limit files).map fun indices => [(anyVariant, some (r.sensors kindOf indices))])
  else
    match r.variants.filterMap (r.available? files kindOf) with
    | [] => none
    | available => some (some (Table.ofEntries available))

end Requirement

namespace Capabilities

/-- The calls of a table that the files support. -/
def derive (table : List Requirement) (files : FileSet)
    (kindOf : SensorFamily → UInt32 → UInt64) : Capabilities :=
  Table.ofEntries (table.filterMap fun r => (r.support? files kindOf).map fun v => (r.call, v))

/-- Two maps together; what the first one says counts. -/
def merge (first second : Capabilities) : Capabilities :=
  second.foldl (fun t entry => if t.has entry.1 then t else t.insert entry.1 entry.2) first

/-- Whether a sensor is among those of a variant. -/
def hasSensor (sensors : Option Sensors) (sensor : UInt64) : Bool :=
  sensor == anyVariant ||
    match sensors with
    | some list => list.any fun packed => Sensors.index packed == sensor
    | none => false

/-- Whether an entry has a variant with a sensor. -/
def hasVariant (entry : Option Variants) (variant sensor : UInt64) : Bool :=
  match entry.bind (·.get? variant) with
  | some sensors => hasSensor sensors sensor
  | none => false

/-- The outcome of asking for a call, a variant and a sensor: a call that is not there is not
supported, a variant or a sensor that is not there is a wrong argument. -/
def check (m : Capabilities) (call : String) (variant sensor : UInt64) : Outcome Unit :=
  match m.get? call with
  | none => .fail .notSupported
  | some entry =>
    if (variant == anyVariant && sensor == anyVariant) || hasVariant entry variant sensor then
      .ok ()
    else .fail .invalidArgs

/-- Whether a call, a variant and a sensor are supported. -/
def supports (m : Capabilities) (call : String) (variant sensor : UInt64) : Bool :=
  match m.check call variant sensor with
  | .ok _ => true
  | .error _ => false

end Capabilities

/-! ## The tables of a card -/

namespace Requirement

def plain (call : String) (mandatory : List String) : Requirement :=
  ⟨call, mandatory, [], .unlabelled⟩

/-- A call that needs attributes of the card. -/
def ofAttributes (call : String) (attributes : List Attribute) : Requirement :=
  plain call (attributes.map Attribute.file)

/-- A call with a variant for each of some attributes. -/
def ofVariants (call : String) (mandatory : List Attribute)
    (variants : List (UInt64 × Attribute)) : Requirement :=
  ⟨call, mandatory.map Attribute.file, variants.map fun v => (v.1, v.2.file), .unlabelled⟩

/-- The files of temperature metrics by number. -/
def temperatureFiles : List String :=
  ["temp#_input", "temp#_max", "temp#_min", "temp#_max_hyst", "temp#_min_hyst", "temp#_crit",
    "temp#_crit_hyst", "temp#_emergency", "temp#_emergency_hyst", "temp#_lcrit",
    "temp#_lcrit_hyst", "temp#_offset", "temp#_lowest", "temp#_highest"]

/-- The files of voltage metrics by number. -/
def voltageFiles : List String :=
  ["in#_input", "in#_max", "in#_lcrit", "in#_min", "in#_crit", "in#_average", "in#_lowest",
    "in#_highest"]

def numbered (files : List String) : List (UInt64 × String) :=
  files.zipIdx.map fun row => (UInt64.ofNat row.2, row.1)

def clockVariants : List (UInt64 × Attribute) :=
  ClockType.all.map fun c => (UInt64.ofNat c.number, c.tableAttribute)

def firmwareVariants : List (UInt64 × Attribute) :=
  Attribute.firmwareBlocks.zipIdx.map fun row => (UInt64.ofNat row.2, row.1)

/-- The calls that read or write attributes of a card. -/
def ofDevice : List Requirement :=
  [ofAttributes "rsmi_dev_vram_vendor_get" [.vramVendor],
    ofAttributes "rsmi_dev_id_get" [.devId],
    ofAttributes "rsmi_dev_vendor_id_get" [.vendorId],
    ofAttributes "rsmi_dev_name_get" [.vendorId, .devId],
    ofAttributes "rsmi_dev_brand_get" [.vendorId],
    ofAttributes "rsmi_dev_vendor_name_get" [.vendorId],
    ofAttributes "rsmi_dev_serial_number_get" [.serialNumber],
    ofAttributes "rsmi_dev_subsystem_id_get" [.subSysDevId],
    ofAttributes "rsmi_dev_subsystem_name_get" [.subSysVendorId, .vendorId, .devId],
    ofAttributes "rsmi_dev_drm_render_minor_get" [],
    ofAttributes "rsmi_dev_subsystem_vendor_id_get" [.subSysVendorId],
    ofAttributes "rsmi_dev_unique_id_get" [.uniqueId],
    ofAttributes "rsmi_dev_pci_bandwidth_get" [.pcieClk],
    ofAttributes "rsmi_dev_pci_id_get" [],
    ofAttributes "rsmi_dev_pci_throughput_get" [.pcieThroughput],
    ofAttributes "rsmi_dev_pci_replay_counter_get" [.pcieReplayCount],
    ofAttributes "rsmi_dev_pci_bandwidth_set" [.perfLevel, .pcieClk],
    ofAttributes "rsmi_dev_power_profile_set" [.perfLevel, .powerProfileMode],
    ofAttributes "rsmi_dev_memory_busy_percent_get" [.memBusyPercent],
    ofAttributes "rsmi_dev_busy_percent_get" [.usage],
    ofAttributes "rsmi_dev_memory_reserved_pages_get" [.memPageBad],
    ofAttributes "rsmi_dev_overdrive_level_get" [.overDriveLevel],
    ofAttributes "rsmi_dev_overdrive_level_set" [.overDriveLevel],
    ofAttributes "rsmi_dev_power_profile_presets_get" [.powerProfileMode],
    ofAttributes "rsmi_dev_perf_level_set" [.perfLevel],
    ofAttributes "rsmi_dev_perf_level_get" [.perfLevel],
    ofAttributes "rsmi_dev_vbios_version_get" [.vBiosVer],
    ofAttributes "rsmi_dev_od_volt_info_get" [.powerOdVoltage],
    ofAttributes "rsmi_dev_od_volt_curve_regions_get" [.powerOdVoltage],
    ofAttributes "rsmi_dev_ecc_enabled_get" [.errCntFeatures],
    ofAttributes "rsmi_dev_ecc_status_get" [.errCntFeatures],
    ofAttributes "rsmi_dev_counter_group_supported" [],
    ofAttributes "rsmi_dev_counter_create" [],
    ofAttributes "rsmi_dev_xgmi_error_status" [.xgmiError],
    ofAttributes "rsmi_dev_xgmi_error_reset" [.xgmiError],
    ofAttributes "rsmi_topo_numa_affinity_get" [.numaNode],
    ofAttributes "rsmi_dev_gpu_metrics_info_get" [.gpuMetrics],
    ofAttributes "rsmi_dev_compute_partition_get" [.computePartition],
    ofAttributes "rsmi_dev_memory_partition_get" [.memoryPartition],
    ofVariants "rsmi_dev_memory_total_get" []
      (MemoryType.all.map fun m => (UInt64.ofNat m.number, m.totalAttribute)),
    ofVariants "rsmi_dev_memory_usage_get" []
      (MemoryType.all.map fun m => (UInt64.ofNat m.number, m.usedAttribute)),
    ofVariants "rsmi_dev_gpu_clk_freq_get" [] clockVariants,
    ofVariants "rsmi_dev_gpu_clk_freq_set" [.perfLevel] clockVariants,
    ofVariants "rsmi_dev_firmware_version_get" [] firmwareVariants,
    ofVariants "rsmi_dev_ecc_count_get" []
      [(0x1, .errCntUmc), (0x2, .errCntSdma), (0x4, .errCntGfx)],
    ofVariants "rsmi_counter_available_counters_get" [] [(0, .dfCountersAvailable)]]

/-- The calls that read or write sensors of a card. -/
def ofMonitor : List Requirement :=
  [plain "rsmi_dev_power_ave_get" ["power#_average"],
    plain "rsmi_dev_power_cap_get" ["power#_cap"],
    plain "rsmi_dev_power_cap_range_get" ["power#_cap_max", "power#_cap_min"],
    plain "rsmi_dev_power_cap_set" ["power#_cap_max", "power#_cap_min"],
    plain "rsmi_dev_fan_rpms_get" ["fan#_input"],
    plain "rsmi_dev_fan_speed_get" ["pwm#"],
    plain "rsmi_dev_fan_speed_max_get" ["pwm#_max"],
    plain "rsmi_dev_fan_reset" ["pwm#_enable"],
    plain "rsmi_dev_fan_speed_set" ["pwm#_max", "pwm#_enable", "pwm#"],
    ⟨"rsmi_dev_temp_metric_get", ["temp#_label"], numbered temperatureFiles, .temperature⟩,
    ⟨"rsmi_dev_volt_metric_get", ["in#_label"], numbered voltageFiles, .voltage⟩]

end Requirement

/-! ## Walking a map -/

/-- One level of a map, and the place of one of its items. -/
structure Cursor (α : Type) where
  items : List α
  pos : Nat
  inside : pos < items.length
  deriving DecidableEq, Repr

namespace Cursor

variable {α : Type}

/-- A cursor on the first of some items. -/
def start (items : List α) : Outcome (Cursor α) :=
  if h : 0 < items.length then .ok ⟨items, 0, h⟩ else .fail .noData

def current (c : Cursor α) : α := c.items.get ⟨c.pos, c.inside⟩

/-- The cursor on the next item; the last one has no next. -/
def next (c : Cursor α) : Outcome (Cursor α) :=
  if h : c.pos + 1 < c.items.length then .ok ⟨c.items, c.pos + 1, h⟩ else .fail .noData

/-- The items from the current one on. -/
def ahead (c : Cursor α) : List α := c.items.drop c.pos

def last (c : Cursor α) : Cursor α :=
  ⟨c.items, c.items.length - 1, Nat.sub_one_lt (Nat.ne_of_gt (Nat.zero_lt_of_lt c.inside))⟩

end Cursor

/-- A walk over one level of a map. -/
inductive Walk where
  | calls (cursor : Cursor (String × Option Variants))
  | variants (cursor : Cursor (UInt64 × Option Sensors))
  | sensors (cursor : Cursor UInt64)
  deriving DecidableEq, Repr

/-- What a walk shows. -/
inductive WalkValue where
  | call (name : String)
  | number (id : UInt64)
  deriving DecidableEq, Repr

namespace Walk

/-- A walk over the calls of a map. -/
def start (m : Capabilities) : Outcome Walk := (Cursor.start m).map calls

/-- A walk over the level below the current item. -/
def child : Walk → Outcome Walk
  | calls c =>
    match c.current.2 with
    | some inner => (Cursor.start inner).map variants
    | none => .fail .noData
  | variants c =>
    match c.current.2 with
    | some inner => (Cursor.start inner).map sensors
    | none => .fail .noData
  | sensors _ => .fail .invalidArgs

/-- The walk one item further; the last item has no next. -/
def next : Walk → Outcome Walk
  | calls c => c.next.map calls
  | variants c => c.next.map variants
  | sensors c => c.next.map sensors

def value : Walk → WalkValue
  | calls c => .call c.current.1
  | variants c => .number c.current.1
  | sensors c => .number c.current

/-- What the walk shows from here to the end. -/
def values : Walk → List WalkValue
  | calls c => c.ahead.map fun item => .call item.1
  | variants c => c.ahead.map fun item => .number item.1
  | sensors c => c.ahead.map .number

def last : Walk → Walk
  | calls c => .calls c.last
  | variants c => .variants c.last
  | sensors c => .sensors c.last

end Walk

end GpuManagement
