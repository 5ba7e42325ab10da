import GpuManagement.Config
import GpuManagement.Counter.Group
import GpuManagement.Device.Metrics
import GpuManagement.Device.Monitor
import GpuManagement.Device.Power
import GpuManagement.Topology.Node

/-!
# Devices

A device is a graphics card, or a partition of one, with the directory of its attributes, its
sensors and its power report. Reading or writing an attribute looks at nothing but the one file the
attribute resolves to, and only attributes of the fitting kind are read or written.
-/

namespace GpuManagement

/-- A card, or a partition of a card. -/
structure Device where
  directory : Path
  cardNumber : UInt32
  config : Config
  address : BusAddress
  renderMinor : UInt32
  /-- The driver's number of the node that stands for the device. -/
  gpuId : UInt64
  nodeIndex : UInt32
  /-- The groups of performance counters, ascending. -/
  eventGroups : List UInt32
  monitor : Option Monitor
  powerReport : PowerReport
  deriving DecidableEq, Repr

namespace Device

/-- The number of the render node of a card, zero when it has none. -/
def renderMinorOf (t : Tree) (card : Path) : UInt32 :=
  ((Files.listNames t ((card.child "device").child "drm")).findSome? fun name =>
    Files.numberAfter? "renderD".toList name.toList).getD 0

/-- The sensors of a card, from the directory that the configuration puts in their place if it
does. -/
def monitorOf (t : Tree) (config : Config) (card : Path) : Option Monitor :=
  (config.hwmonOverride.or (Monitor.find t card)).map (Monitor.ofDirectory t)

/-- The device of a card at an address, for which a node stands. -/
def ofCard (t : Tree) (config : Config) (card : Path) (cardNumber : UInt32)
    (address : BusAddress) (node : Node) : Device where
  directory := card
  cardNumber := cardNumber
  config := config
  address := address
  renderMinor := renderMinorOf t card
  gpuId := node.gpuId
  nodeIndex := node.index
  eventGroups := EventGroup.ofCard t config.eventSourceRoot cardNumber
  monitor := monitorOf t config card
  powerReport := PowerReport.ofCard (config.powerOverride.getD config.driRoot) cardNumber

def requireMonitor (d : Device) : Outcome Monitor := .ofOption .notSupported d.monitor

/-! ## Attributes -/

/-- What a path is resolved for. -/
inductive Access where
  | reading
  | writing
  deriving DecidableEq, Repr

/-- The file of an attribute. A directory that stands in for that of the card has a second one
beside it, from which nothing is read, for what is written. -/
def attributePath (d : Device) (a : Attribute) (access : Access) : Path :=
  match d.config.overrideFor a.id, access with
  | some root, .reading => (root.child "device").join a.file
  | some root, .writing => ((root.withEnding ".write").child "device").join a.file
  | none, _ => (d.directory.child "device").join a.file

def readNumber (d : Device) (t : Tree) (a : Attribute) : Outcome UInt64 :=
  match a.kind with
  | .hexadecimal => Files.readHex t (d.attributePath a .reading)
  | .decimal => Files.readDecimal t (d.attributePath a .reading)
  | _ => .fail .invalidArgs

def readToken (d : Device) (t : Tree) (a : Attribute) : Outcome (List Char) :=
  if a.readableAsToken || a.kind == .token then Files.readWord t (d.attributePath a .reading)
  else .fail .invalidArgs

def readLine (d : Device) (t : Tree) (a : Attribute) : Outcome (List Char) :=
  Files.readLine t (d.attributePath a .reading)

def readLines (d : Device) (t : Tree) (a : Attribute) : Outcome (List (List Char)) :=
  if a.kind = .multiLine then Files.readLines t (d.attributePath a .reading)
  else .fail .invalidArgs

def readBytes (d : Device) (t : Tree) (a : Attribute) (limit : Nat) : Outcome Bytes :=
  if a.kind = .binary then Files.readBytes t (d.attributePath a .reading) limit
  else .fail .invalidArgs

/-- How a number is written to an attribute: a performance level by its word. -/
def numberText (a : Attribute) (value : UInt64) : Outcome String :=
  if a = .perfLevel then
    (Outcome.ofOption .invalidArgs (PerfLevel.ofNumber? value)).map PerfLevel.keyword
  else .ok (decimalText value.toNat)

/-- The tree with a number in an attribute. -/
def writeNumber (d : Device) (t : Tree) (a : Attribute) (value : UInt64) : Outcome Tree := do
  if !a.takesNumber then .fail .invalidArgs
  else
    let text ← numberText a value
    Files.writeText t (d.attributePath a .writing) text

/-- The tree with a text in an attribute. -/
def writeText (d : Device) (t : Tree) (a : Attribute) (text : String) : Outcome Tree :=
  if a.takesText then Files.writeText t (d.attributePath a .writing) text
  else .fail .invalidArgs

/-! ## Capabilities and metrics -/

/-- The files of a device that its capabilities depend on. -/
def files (d : Device) (t : Tree) : FileSet :=
  let root := d.directory.child "device"
  ⟨Files.listNames t root ++
    ["ras", "fw_version"].flatMap fun sub =>
      (Files.listNames t (root.child sub)).map fun name => sub ++ "/" ++ name⟩

/-- What the files of a device support now. -/
def capabilities (d : Device) (t : Tree) : Capabilities :=
  let own := Capabilities.derive Requirement.ofDevice (d.files t) fun _ _ => 0
  match d.monitor with
  | none => own
  | some m => own.merge (Capabilities.derive Requirement.ofMonitor (m.files t) m.kindOf)

def readMetricsTable (d : Device) (t : Tree) : Outcome Bytes :=
  d.readBytes t .gpuMetrics GpuMetrics.maxBytes

/-- The bytes of a metrics table that has at least a header. -/
def metricsTable (d : Device) (t : Tree) : Outcome Bytes := do
  let b ← d.readMetricsTable t
  if b.length < MetricsHeader.byteSize then .fail .unexpectedSize else .ok b

end Device

end GpuManagement
