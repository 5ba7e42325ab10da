import GpuManagement.Counter.Basic
import GpuManagement.Events.Notifier
import GpuManagement.Process
import GpuManagement.Session.Setting
import GpuManagement.Topology.Route

/-!
# Sessions

A session holds the devices that were found when it was opened, and answers for them from then on.
A device serves one caller at a time: whoever uses it holds its lock, and a session that does not
wait answers that a held device is busy. What a device supports is worked out once, when it is first
asked for; the header of its metrics table is remembered for a while.
-/

namespace GpuManagement

/-- An open session. -/
structure Session where
  config : Config
  flags : InitFlags
  /-- The number of the user the session works for; only number zero may change anything. -/
  user : UInt32
  inventory : Inventory
  /-- The devices whose lock is held. -/
  held : Table UInt32 Unit
  /-- What devices support, as far as it was asked for. -/
  known : Table UInt32 Capabilities
  headers : Table UInt32 HeaderCache
  notifier : EventNotifier
  deriving Repr

namespace Session

/-- A session on what the system shows now. Whatever goes wrong is a failure to start. -/
def build (t : Tree) (config : Config) (user : UInt32) (flags : InitFlags) : Outcome Session :=
  match Inventory.discover t config flags with
  | .ok inventory =>
    .ok
      { config, flags, user, inventory, held := [], known := [], headers := []
        notifier := EventNotifier.ofDriver config.kfdDevice }
  | .error (.startup problem) => .error (.startup problem)
  | .error (.startupStage stage cause) => .error (.startupStage stage cause)
  | .error cause => .error (.startupStage .discovery cause)

/-- Fails unless the session works for the user who may change things. -/
def requireRoot (s : Session) : Outcome Unit := if s.user = 0 then .ok () else .fail .permission

def deviceCount (s : Session) : Nat := s.inventory.count

def device (s : Session) (dv : UInt32) : Outcome Device := s.inventory.device dv

def node (s : Session) (dv : UInt32) : Outcome Node := s.inventory.node dv

/-! ## Locks -/

/-- Whether a device is in use and the session does not wait for it. -/
def isBusy (s : Session) (dv : UInt32) : Bool := s.flags.nonBlocking && s.held.has dv

/-- A device, once its lock is free. -/
def lockedDevice (s : Session) (dv : UInt32) : Outcome Device := do
  let d ← s.device dv
  if s.isBusy dv then .fail .busy else .ok d

/-- Takes the lock of a device and keeps it. -/
def hold (s : Session) (dv : UInt32) : Outcome Session := do
  let _ ← s.lockedDevice dv
  .ok { s with held := s.held.insert dv () }

def release (s : Session) : Session := { s with held := [] }

/-! ## Reading -/

/-- Whether a device has a group of events that are counted. -/
def groupSupported (s : Session) (dv : UInt32) (group : UInt32) : Outcome Unit := do
  let g ← Outcome.ofOption .invalidArgs (EventGroup.ofNumber? group)
  let d ← s.device dv
  if d.eventGroups.contains g.number then .ok () else .fail .notSupported

/-- What is wrong with a reading before the device is looked at. -/
def checkReading (s : Session) (dv : UInt32) : Reading → Outcome Unit
  | .firmwareVersion block =>
    if block.toNat < Attribute.firmwareBlocks.length then .ok () else .fail .invalidArgs
  | .errorCount block =>
    if (Attribute.ofErrorBlock? block).isSome then .ok () else .fail .invalidArgs
  | .availableCounters group => do
    s.groupSupported dv group
    if group = EventGroup.xgmi.number then .ok () else .fail .notSupported
  | _ => .ok ()

def read (s : Session) (t : Tree) (dv : UInt32) (r : Reading) : Outcome r.Value := do
  s.checkReading dv r
  let d ← if r.needsLock then s.lockedDevice dv else s.device dv
  d.read t r

def headerCache (s : Session) (dv : UInt32) : HeaderCache := (s.headers.get? dv).getD .empty

/-- The header of the metrics table of a device at a time in milliseconds, and the session that
remembers it. No lock is taken. -/
def metricsHeader (s : Session) (t : Tree) (now : Nat) (dv : UInt32) :
    Outcome MetricsHeader × Session :=
  match s.device dv with
  | .error e => (.error e, s)
  | .ok d =>
    let (outcome, cache) := (s.headerCache dv).get now (d.readMetricsTable t)
    (outcome, { s with headers := s.headers.insert dv cache })

/-- The session after a reading: one that decodes the metrics table remembers its header. -/
def afterReading (s : Session) (t : Tree) (now : Nat) (dv : UInt32) (r : Reading) : Session :=
  match r, s.read t dv r with
  | .metrics, .ok _ => (s.metricsHeader t now dv).2
  | _, _ => s

/-! ## Changing -/

def apply (s : Session) (t : Tree) (dv : UInt32) (setting : Setting) : Outcome Unit × Tree :=
  match (do s.requireRoot; setting.check; s.lockedDevice dv : Outcome Device) with
  | .error e => (.error e, t)
  | .ok d => d.apply t setting

/-! ## Capabilities -/

/-- What a device supports, as it was when first asked. -/
def capabilities (s : Session) (t : Tree) (dv : UInt32) : Outcome Capabilities × Session :=
  match s.device dv with
  | .error e => (.error e, s)
  | .ok d =>
    match s.known.get? dv with
    | some m => (.ok m, s)
    | none =>
      let m := d.capabilities t
      (.ok m, { s with known := s.known.insert dv m })

/-- Whether a call, a variant and a sensor are supported by a device. -/
def supports (s : Session) (t : Tree) (dv : UInt32) (call : String) (variant sensor : UInt64) :
    Outcome Unit × Session :=
  match s.capabilities t dv with
  | (.error e, s) => (.error e, s)
  | (.ok m, s) => (m.check call variant sensor, s)

/-- A walk over what a device supports. -/
def walk (s : Session) (t : Tree) (dv : UInt32) : Outcome Walk × Session :=
  match s.capabilities t dv with
  | (.error e, s) => (.error e, s)
  | (.ok m, s) => (Walk.start m, s)

/-! ## The whole system -/

def processes (s : Session) (t : Tree) : Outcome (List ProcessUsage) :=
  ProcessUsage.all t s.config.processRoot

/-- The compute units of one of the driver's cards. -/
def computeUnits? (s : Session) (gpuId : UInt64) : Option UInt64 := do
  let dv ← s.inventory.deviceOfCard? gpuId
  let node ← (s.node dv).toOption
  some node.cuCount

/-- What a process uses on the cards it has queues on. -/
def processUsage (s : Session) (t : Tree) (pid : UInt32) : Outcome ProcessUsage := do
  let cards ← ProcessUsage.cards t s.config.processRoot pid
  ProcessUsage.ofProcess t s.config.processRoot pid cards s.computeUnits?

/-- The devices a process has queues on, in the order of the driver's numbers. -/
def processDevices (s : Session) (t : Tree) (pid : UInt32) : Outcome (List UInt32) := do
  let cards ← ProcessUsage.cards t s.config.processRoot pid
  .ok (cards.filterMap s.inventory.deviceOfCard?)

def driverVersion (s : Session) (t : Tree) : Outcome (List Char) := do
  let line ← Files.readLine t s.config.driverVersionFile
  let version := Text.trim line
  if version.isEmpty then .fail .noData else .ok version

/-! ## Counters and events -/

/-- A counter of an event of a device, which the caller keeps. -/
def counter (s : Session) (dv event : UInt32) : Outcome Counter := do
  let g ← Outcome.ofOption .invalidArgs (EventGroup.ofEvent? event)
  s.groupSupported dv g.number
  let d ← s.device dv
  Counter.ofEvent s.config.eventSourceRoot d.cardNumber dv event

/-- The driver's number of a device, which must fit a request. -/
def eventCard (s : Session) (dv : UInt32) : Outcome UInt32 := do
  let d ← s.device dv
  if d.gpuId.toNat < UInt32.size then .ok d.gpuId.toUInt32 else .fail .invalidArgs

/-- The outcome of a call, with the session and the kernel after it. -/
abbrev Step (α : Type) := Outcome α × Session × Kernel

/-- The session with the notifier of a step. -/
def ofNotifier {α : Type} (s : Session) (step : EventNotifier.Step α) : Step α :=
  (step.1, { s with notifier := step.2.1 }, step.2.2)

def startEvents (s : Session) (t : Tree) (k : Kernel) (dv : UInt32) : Step Unit :=
  match s.eventCard dv with
  | .error e => (.error e, s, k)
  | .ok card => s.ofNotifier (s.notifier.start t k dv card)

def setEventMask (s : Session) (k : Kernel) (dv : UInt32) (mask : UInt64) :
    Outcome Unit × Kernel :=
  match s.device dv with
  | .error e => (.error e, k)
  | .ok _ => s.notifier.setMask k dv mask

/-- Events of any device, at most `limit`. -/
def events (s : Session) (k : Kernel) (timeout : Int) (limit : Nat) :
    Step (List EventNotification) := s.ofNotifier (s.notifier.get k timeout limit)

def stopEvents (s : Session) (k : Kernel) (dv : UInt32) : Step Unit :=
  match s.device dv with
  | .error e => (.error e, s, k)
  | .ok _ => s.ofNotifier (s.notifier.stop k dv)

end Session

end GpuManagement
