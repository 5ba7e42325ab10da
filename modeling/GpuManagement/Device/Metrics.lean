import GpuManagement.Error
import GpuManagement.Files.Bytes

/-!
# The metrics table

The driver writes a binary table of measurements. Its first four bytes name the layout, of which
three are known; each longer one continues the one before it. Numbers are little-endian and stand
at multiples of their own width. A table is decoded into one record, in which the fields that a
layout lacks are zero.
-/

namespace GpuManagement

/-- The start of every table. -/
structure MetricsHeader where
  size : UInt16
  format : UInt8
  content : UInt8
  deriving DecidableEq, Repr

/-- The layouts that are known. -/
inductive MetricsLayout where
  | v11
  | v12
  | v13
  deriving DecidableEq, Repr

/-- The number of bytes of a layout. -/
def MetricsLayout.size : MetricsLayout → Nat
  | v11 => 96
  | v12 => 104
  | v13 => 120

/-- The measurements of a card. -/
structure GpuMetrics where
  header : MetricsHeader
  temperatureEdge : UInt16
  temperatureHotspot : UInt16
  temperatureMem : UInt16
  temperatureVrgfx : UInt16
  temperatureVrsoc : UInt16
  temperatureVrmem : UInt16
  averageGfxActivity : UInt16
  averageUmcActivity : UInt16
  averageMmActivity : UInt16
  averageSocketPower : UInt16
  energyAccumulator : UInt64
  systemClockCounter : UInt64
  averageGfxclk : UInt16
  averageSocclk : UInt16
  averageUclk : UInt16
  averageVclk0 : UInt16
  averageDclk0 : UInt16
  averageVclk1 : UInt16
  averageDclk1 : UInt16
  currentGfxclk : UInt16
  currentSocclk : UInt16
  currentUclk : UInt16
  currentVclk0 : UInt16
  currentDclk0 : UInt16
  currentVclk1 : UInt16
  currentDclk1 : UInt16
  throttleStatus : UInt32
  currentFanSpeed : UInt16
  pcieLinkWidth : UInt16
  pcieLinkSpeed : UInt16
  padding : UInt16
  gfxActivityAcc : UInt32
  memActivityAcc : UInt32
  temperatureHbm0 : UInt16
  temperatureHbm1 : UInt16
  temperatureHbm2 : UInt16
  temperatureHbm3 : UInt16
  firmwareTimestamp : UInt64
  voltageSoc : UInt16
  voltageGfx : UInt16
  voltageMem : UInt16
  padding1 : UInt16
  indepThrottleStatus : UInt64
  deriving DecidableEq, Repr

/-! ## Reading a table -/

/-- The number of `width` bytes at a place. -/
def Bytes.numberAt (b : Bytes) (width offset : Nat) : Nat :=
  Bytes.toNat ((b.drop offset).take width)

def Bytes.half (b : Bytes) (offset : Nat) : UInt16 := UInt16.ofNat (b.numberAt 2 offset)

def Bytes.word (b : Bytes) (offset : Nat) : UInt32 := UInt32.ofNat (b.numberAt 4 offset)

def Bytes.double (b : Bytes) (offset : Nat) : UInt64 := UInt64.ofNat (b.numberAt 8 offset)

namespace MetricsHeader

def byteSize : Nat := 4

/-- The header of a table, which takes four bytes. -/
def read (b : Bytes) : Outcome MetricsHeader :=
  match b with
  | _ :: _ :: format :: content :: _ => .ok ⟨b.half 0, format, content⟩
  | _ => .fail .unexpectedSize

def layout? (h : MetricsHeader) : Option MetricsLayout :=
  if h.format = 1 then
    if h.content = 1 then some .v11
    else if h.content = 2 then some .v12
    else if h.content = 3 then some .v13
    else none
  else none

end MetricsHeader

namespace GpuMetrics

/-- The fields of the shortest layout; the others are zero. -/
def ofShortest (header : MetricsHeader) (b : Bytes) : GpuMetrics where
  header := header
  temperatureEdge := b.half 4
  temperatureHotspot := b.half 6
  temperatureMem := b.half 8
  temperatureVrgfx := b.half 10
  temperatureVrsoc := b.half 12
  temperatureVrmem := b.half 14
  averageGfxActivity := b.half 16
  averageUmcActivity := b.half 18
  averageMmActivity := b.half 20
  averageSocketPower := b.half 22
  energyAccumulator := b.double 24
  systemClockCounter := b.double 32
  averageGfxclk := b.half 40
  averageSocclk := b.half 42
  averageUclk := b.half 44
  averageVclk0 := b.half 46
  averageDclk0 := b.half 48
  averageVclk1 := b.half 50
  averageDclk1 := b.half 52
  currentGfxclk := b.half 54
  currentSocclk := b.half 56
  currentUclk := b.half 58
  currentVclk0 := b.half 60
  currentDclk0 := b.half 62
  currentVclk1 := b.half 64
  currentDclk1 := b.half 66
  throttleStatus := b.word 68
  currentFanSpeed := b.half 72
  pcieLinkWidth := b.half 74
  pcieLinkSpeed := b.half 76
  padding := 0
  gfxActivityAcc := b.word 80
  memActivityAcc := b.word 84
  temperatureHbm0 := b.half 88
  temperatureHbm1 := b.half 90
  temperatureHbm2 := b.half 92
  temperatureHbm3 := b.half 94
  firmwareTimestamp := 0
  voltageSoc := 0
  voltageGfx := 0
  voltageMem := 0
  padding1 := 0
  indepThrottleStatus := 0

def ofLayout (layout : MetricsLayout) (header : MetricsHeader) (b : Bytes) : GpuMetrics :=
  match layout with
  | .v11 => ofShortest header b
  | .v12 => { ofShortest header b with firmwareTimestamp := b.double 96 }
  | .v13 =>
    { ofShortest header b with
      firmwareTimestamp := b.double 96
      voltageSoc := b.half 104
      voltageGfx := b.half 106
      voltageMem := b.half 108
      indepThrottleStatus := b.double 112 }

/-- The layout and the measurements of a table. An unknown layout is refused whatever the length,
bytes after the end of a layout do not matter. -/
def decode (b : Bytes) : Outcome (MetricsLayout × GpuMetrics) := do
  let header ← MetricsHeader.read b
  match header.layout? with
  | none => .fail .notSupported
  | some layout =>
    if b.length < layout.size then .fail .unexpectedSize
    else .ok (layout, ofLayout layout header b)

/-- The measurements by name, in the order of the table; one of them has four values. -/
def fields (m : GpuMetrics) : List (String × List Nat) :=
  [("temperature_edge", [m.temperatureEdge.toNat]),
    ("temperature_hotspot", [m.temperatureHotspot.toNat]),
    ("temperature_mem", [m.temperatureMem.toNat]),
    ("temperature_vrgfx", [m.temperatureVrgfx.toNat]),
    ("temperature_vrsoc", [m.temperatureVrsoc.toNat]),
    ("temperature_vrmem", [m.temperatureVrmem.toNat]),
    ("average_gfx_activity", [m.averageGfxActivity.toNat]),
    ("average_umc_activity", [m.averageUmcActivity.toNat]),
    ("average_mm_activity", [m.averageMmActivity.toNat]),
    ("average_socket_power", [m.averageSocketPower.toNat]),
    ("energy_accumulator", [m.energyAccumulator.toNat]),
    ("system_clock_counter", [m.systemClockCounter.toNat]),
    ("average_gfxclk_frequency", [m.averageGfxclk.toNat]),
    ("average_socclk_frequency", [m.averageSocclk.toNat]),
    ("average_uclk_frequency", [m.averageUclk.toNat]),
    ("average_vclk0_frequency", [m.averageVclk0.toNat]),
    ("average_dclk0_frequency", [m.averageDclk0.toNat]),
    ("average_vclk1_frequency", [m.averageVclk1.toNat]),
    ("average_dclk1_frequency", [m.averageDclk1.toNat]),
    ("current_gfxclk", [m.currentGfxclk.toNat]),
    ("current_socclk", [m.currentSocclk.toNat]),
    ("current_uclk", [m.currentUclk.toNat]),
    ("current_vclk0", [m.currentVclk0.toNat]),
    ("current_dclk0", [m.currentDclk0.toNat]),
    ("current_vclk1", [m.currentVclk1.toNat]),
    ("current_dclk1", [m.currentDclk1.toNat]),
    ("throttle_status", [m.throttleStatus.toNat]),
    ("current_fan_speed", [m.currentFanSpeed.toNat]),
    ("pcie_link_width", [m.pcieLinkWidth.toNat]),
    ("pcie_link_speed", [m.pcieLinkSpeed.toNat]),
    ("padding", [m.padding.toNat]),
    ("gfx_activity_acc", [m.gfxActivityAcc.toNat]),
    ("mem_activity_acc", [m.memActivityAcc.toNat]),
    ("temperature_hbm", [m.temperatureHbm0.toNat, m.temperatureHbm1.toNat,
      m.temperatureHbm2.toNat, m.temperatureHbm3.toNat]),
    ("firmware_timestamp", [m.firmwareTimestamp.toNat]),
    ("voltage_soc", [m.voltageSoc.toNat]),
    ("voltage_gfx", [m.voltageGfx.toNat]),
    ("voltage_mem", [m.voltageMem.toNat]),
    ("padding1", [m.padding1.toNat]),
    ("indep_throttle_status", [m.indepThrottleStatus.toNat])]

/-- No more of a table is read than this. -/
def maxBytes : Nat := 4096

end GpuMetrics

/-! ## The remembered header -/

/-- A header and the time it was read at, in nanoseconds. -/
structure HeaderCache where
  entry : Option (MetricsHeader × Nat)
  deriving DecidableEq, Repr

namespace HeaderCache

def empty : HeaderCache := ⟨none⟩

/-- How long a header may be used. -/
def lifetime : Nat := 5000000000

/-- The remembered header, unless it is too old. -/
def fresh? (c : HeaderCache) (now : Nat) : Option MetricsHeader :=
  match c.entry with
  | some (header, at_) => if now - at_ < lifetime then some header else none
  | none => none

/-- The header at a time. Unless a fresh one is remembered the table is read, which may change the
world that it is read in. A failure leaves the cache as it was. -/
def ask {σ : Type} (c : HeaderCache) (now : Nat) (read : σ → Outcome Bytes × σ) (world : σ) :
    Outcome MetricsHeader × HeaderCache × σ :=
  match c.fresh? now with
  | some header => (.ok header, c, world)
  | none =>
    match read world with
    | (.error e, world) => (.error e, c, world)
    | (.ok b, world) =>
      match MetricsHeader.read b with
      | .error e => (.error e, c, world)
      | .ok header => (.ok header, ⟨some (header, now)⟩, world)

def invalidate (c : HeaderCache) : HeaderCache := { c with entry := none }

def nanoseconds (milliseconds : Nat) : Nat := milliseconds * 1000000

/-- The header at a time in whole milliseconds, of a table that is read without a change. -/
def get (c : HeaderCache) (now : Nat) (table : Outcome Bytes) :
    Outcome MetricsHeader × HeaderCache :=
  let (answer, c, _) := c.ask (nanoseconds now) (fun _ : Unit => (table, ())) ()
  (answer, c)

/-- How often `get` reads the table at a time, as a reading tells that counts. -/
def readsAt (c : HeaderCache) (now : Nat) : Nat :=
  (c.ask (nanoseconds now) (fun count => (.fail .noData, count + 1)) 0).2.2

end HeaderCache

end GpuManagement
