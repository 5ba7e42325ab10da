import GpuManagement.Interface.Getter
import GpuManagement.Interface.Output
import GpuManagement.Session.Registry

/-!
# The interface of statuses

This is the library as programs outside see it. Every call ends in a status, values go to places
that the caller may leave out, and what a caller keeps is named by a handle. All calls share one
session with the usual places of the system.
-/

namespace GpuManagement

/-- The version of the library. -/
structure LibraryVersion where
  major : UInt32
  minor : UInt32
  patch : UInt32
  build : String
  deriving DecidableEq, Repr

def LibraryVersion.current : LibraryVersion := ⟨0, 1, 0, "0.1.0"⟩

/-- Two commands to a counter. -/
inductive CounterCommand where
  | start
  | stop
  deriving DecidableEq, Repr

def CounterCommand.ofNumber? (n : UInt32) : Option CounterCommand :=
  if n = 0 then some .start else if n = 1 then some .stop else none

/-- The shared session, and what the handles in use stand for. -/
structure Interface where
  registry : Registry
  /-- The walks by handle; one that was closed has left a gap. -/
  walks : List (Option Walk)
  counters : List (Option Counter)
  deriving Repr

/-- The status of a call, and what it hands over when it succeeds. -/
abbrev Reply (α : Type) := Except Status α

namespace Interface

/-- The interface before its first call, for a user. -/
def ofUser (user : UInt32) : Interface := ⟨Registry.ofConfig .standard user, [], []⟩

/-- An outcome as the caller learns of it. -/
def reply {α : Type} (o : Outcome α) : Reply α := o.mapError Error.toStatus

def statusOf {α : Type} : Reply α → Status
  | .ok _ => .success
  | .error status => status

/-- A call on the session; without a session it is an error of initialization. -/
def onSession {α : Type} (i : Interface) (f : Session → Outcome α) : Reply α :=
  reply (do let s ← i.registry.current; f s)

/-- A call on the session that hands over a value; without a place for it the call is wrong. -/
def valueOnSession {α : Type} (i : Interface) (hasPlace : Bool) (f : Session → Outcome α) :
    Reply α := i.onSession fun s => if hasPlace then f s else .fail .invalidArgs

/-- A call that may change the session. -/
def withSession {α : Type} (i : Interface) (f : Session → Outcome α × Session) :
    Reply α × Interface :=
  match i.registry.session with
  | none => (.error .initError, i)
  | some s =>
    let (outcome, s) := f s
    (reply outcome, { i with registry := i.registry.update s })

/-- A call that may change the session and the kernel. -/
def withKernel {α : Type} (i : Interface) (k : Kernel) (f : Session → Session.Step α) :
    Reply α × Interface × Kernel :=
  match i.registry.session with
  | none => (.error .initError, i, k)
  | some s =>
    let (outcome, s, k) := f s
    (reply outcome, { i with registry := i.registry.update s }, k)

/-! ## Opening and closing -/

def join (i : Interface) (t : Tree) (flags : InitFlags) : Reply Unit × Interface :=
  let (outcome, registry) := i.registry.join t flags
  (reply (outcome.map fun _ => ()), { i with registry })

def leave (i : Interface) (k : Kernel) : Reply Unit × Interface × Kernel :=
  let (outcome, registry, k) := i.registry.leave k
  (reply outcome, { i with registry }, k)

/-! ## The library itself -/

/-- The description of the status with a number. -/
def statusText (code : UInt32) (hasPlace : Bool) : Reply String :=
  match Status.ofCode? code with
  | some status => if hasPlace then .ok status.description else .error .invalidArgs
  | none => .error .invalidArgs

def version (hasPlace : Bool) : Reply LibraryVersion :=
  if hasPlace then .ok .current else .error .invalidArgs

def deviceCount (i : Interface) (hasPlace : Bool) : Reply Nat :=
  i.valueOnSession hasPlace fun s => .ok s.deviceCount

/-! ## Routes -/

/-- The processor that a device is closest to. -/
def numaNode (i : Interface) (dv : UInt32) (hasPlace : Bool) : Reply UInt32 :=
  i.valueOnSession hasPlace fun s => Route.numaNode s.inventory dv

/-- The weight of the route between two devices. -/
def routeWeight (i : Interface) (source target : UInt32) (hasPlace : Bool) : Reply UInt64 :=
  i.valueOnSession hasPlace fun s => Route.weightBetween s.inventory source target

/-- The hops and the kind of the route between two devices. -/
def routeKind (i : Interface) (source target : UInt32) (hasPlace : Bool) :
    Reply (Nat × RouteKind) :=
  i.valueOnSession hasPlace fun s => Route.kindBetween s.inventory source target

def bandwidth (i : Interface) (source target : UInt32) (hasPlace : Bool) :
    Reply (UInt64 × UInt64) :=
  i.valueOnSession hasPlace fun s => Route.bandwidthBetween s.inventory source target

/-- Whether a device reaches the memory of another by itself. -/
def isPeer (i : Interface) (source target : UInt32) (hasPlace : Bool) : Reply Bool :=
  i.valueOnSession hasPlace fun s => Route.isPeer s.inventory source target

/-! ## Values -/

def get (i : Interface) (t : Tree) (now : Nat) (g : Getter) (dv : UInt32) (hasPlace : Bool) :
    Reply Answer × Interface := i.withSession fun s => g.call s t now dv hasPlace

def textOf : Answer → Bytes
  | ⟨.serialNumber, text⟩ | ⟨.vbiosVersion, text⟩ | ⟨.vramVendor, text⟩
  | ⟨.computePartition, text⟩ | ⟨.memoryPartition, text⟩ => Bytes.ofText (String.ofList text)
  | _ => []

/-- A text in the caller's room, which may be missing. -/
def fillText (capacity : UInt32) : Reply Bytes → FilledText
  | .ok text => FilledText.ofText capacity.toNat text
  | .error status => ⟨status, []⟩

/-- A call of a getter for a text, with room for so many bytes. -/
def getText (i : Interface) (t : Tree) (now : Nat) (g : Getter) (dv capacity : UInt32)
    (hasRoom : Bool) : FilledText × Interface :=
  let (answer, i) := i.get t now g dv hasRoom
  (fillText capacity (answer.map textOf), i)

/-- The version of a component; the driver is the only one. -/
def versionText (i : Interface) (t : Tree) (component capacity : UInt32) (hasRoom : Bool) :
    FilledText :=
  fillText capacity <| i.valueOnSession hasRoom fun s => do
    if component = 0 then
      let version ← s.driverVersion t
      .ok (Bytes.ofText (String.ofList version))
    else .fail .invalidArgs

/-- A list in the caller's room. A caller that does not say how much room there is gets
nothing. -/
def fillList {α : Type} (capacity : Option UInt32) (hasRoom : Bool) :
    Reply (List α) → FilledList α
  | .error status => ⟨status, (capacity.map UInt32.toNat).getD 0, []⟩
  | .ok values =>
    match capacity with
    | none => ⟨.invalidArgs, 0, []⟩
    | some capacity => FilledList.ofValues hasRoom capacity.toNat values

def retiredPages (i : Interface) (t : Tree) (dv : UInt32) (capacity : Option UInt32)
    (hasRoom : Bool) : FilledList RetiredPage :=
  fillList capacity hasRoom (i.onSession fun s => s.read t dv .retiredPages)

def processes (i : Interface) (t : Tree) (capacity : Option UInt32) (hasRoom : Bool) :
    FilledList ProcessUsage := fillList capacity hasRoom (i.onSession fun s => s.processes t)

/-- The devices a process has queues on. -/
def processDevices (i : Interface) (t : Tree) (pid : UInt32) (capacity : Option UInt32)
    (hasRoom : Bool) : FilledList UInt32 :=
  fillList capacity hasRoom (i.onSession fun s => s.processDevices t pid)

def processUsage (i : Interface) (t : Tree) (pid : UInt32) (hasPlace : Bool) :
    Reply ProcessUsage := i.valueOnSession hasPlace fun s => s.processUsage t pid

/-! ## Changes -/

def set (i : Interface) (t : Tree) (dv : UInt32) (c : Change) : Reply Unit × Tree :=
  match i.registry.session with
  | none => (.error .initError, t)
  | some s =>
    match c.setting? with
    | none => (.error .invalidArgs, t)
    | some setting =>
      let (outcome, t) := s.apply t dv setting
      (reply outcome, t)

/-- Clears the errors of the links between cards, which a reading does. -/
def resetXgmiErrors (i : Interface) (t : Tree) (dv : UInt32) : Reply Unit :=
  i.onSession fun s => s.read t dv .xgmiReset

/-! ## Walks -/

/-- What a handle stands for, if it is in use. -/
def handleAt {α : Type} (handles : List (Option α)) (handle : Option Nat) : Reply (Nat × α) :=
  match handle with
  | none => .error .invalidArgs
  | some n =>
    match handles[n]? with
    | some (some x) => .ok (n, x)
    | _ => .error .invalidArgs

def addWalk (i : Interface) (w : Walk) : Nat × Interface :=
  (i.walks.length, { i with walks := i.walks ++ [some w] })

/-- A walk over what a device supports. -/
def openWalk (i : Interface) (t : Tree) (dv : UInt32) (hasPlace : Bool) : Reply Nat × Interface :=
  let (answer, i) := i.withSession fun s =>
    if hasPlace then s.walk t dv else (.fail .invalidArgs, s)
  match answer with
  | .error status => (.error status, i)
  | .ok w =>
    let (handle, i) := i.addWalk w
    (.ok handle, i)

/-- A walk over the level below the current item of another. -/
def openChild (i : Interface) (parent : Option Nat) (hasPlace : Bool) : Reply Nat × Interface :=
  match handleAt i.walks parent with
  | .error status => (.error status, i)
  | .ok (_, w) =>
    if hasPlace then
      match w.child with
      | .error e => (.error e.toStatus, i)
      | .ok child =>
        let (handle, i) := i.addWalk child
        (.ok handle, i)
    else (.error .invalidArgs, i)

def nextWalk (i : Interface) (handle : Option Nat) : Reply Unit × Interface :=
  match handleAt i.walks handle with
  | .error status => (.error status, i)
  | .ok (n, w) =>
    match w.next with
    | .error e => (.error e.toStatus, i)
    | .ok w => (.ok (), { i with walks := i.walks.set n (some w) })

def walkValue (i : Interface) (handle : Option Nat) (hasPlace : Bool) : Reply WalkValue := do
  let (_, w) ← handleAt i.walks handle
  if hasPlace then .ok w.value else .error .invalidArgs

def closeWalk (i : Interface) (handle : Option Nat) : Reply Unit × Interface :=
  match handleAt i.walks handle with
  | .error status => (.error status, i)
  | .ok (n, _) => (.ok (), { i with walks := i.walks.set n none })

/-! ## Counters -/

/-- Whether a device has a group of events that are counted. -/
def groupSupported (i : Interface) (dv group : UInt32) : Reply Unit :=
  i.onSession fun s => s.groupSupported dv group

/-- A new counter of an event of a device. -/
def createCounter (i : Interface) (dv event : UInt32) (hasPlace : Bool) : Reply Nat × Interface :=
  match i.valueOnSession hasPlace fun s => s.counter dv event with
  | .error status => (.error status, i)
  | .ok c => (.ok i.counters.length, { i with counters := i.counters ++ [some c] })

def destroyCounter (i : Interface) (k : Kernel) (handle : Option Nat) :
    Reply Unit × Interface × Kernel :=
  match handleAt i.counters handle with
  | .error status => (.error status, i, k)
  | .ok (n, c) => (.ok (), { i with counters := i.counters.set n none }, c.close k)

def controlCounter (i : Interface) (t : Tree) (k : Kernel) (handle : Option Nat)
    (command : UInt32) : Reply Unit × Interface × Kernel :=
  match handleAt i.counters handle with
  | .error status => (.error status, i, k)
  | .ok (n, c) =>
    match CounterCommand.ofNumber? command with
    | none => (.error .invalidArgs, i, k)
    | some .start =>
      let (outcome, c, k) := c.start t k
      (reply outcome, { i with counters := i.counters.set n (some c) }, k)
    | some .stop =>
      let (outcome, k) := c.stop k
      (reply outcome, i, k)

def readCounter (i : Interface) (k : Kernel) (handle : Option Nat) (hasPlace : Bool) :
    Reply CounterValue × Interface × Kernel :=
  match handleAt i.counters handle with
  | .error status => (.error status, i, k)
  | .ok (n, c) =>
    if hasPlace then
      let (outcome, c, k) := c.read k
      (reply outcome, { i with counters := i.counters.set n (some c) }, k)
    else (.error .invalidArgs, i, k)

/-! ## Events -/

def startEvents (i : Interface) (t : Tree) (k : Kernel) (dv : UInt32) :
    Reply Unit × Interface × Kernel := i.withKernel k fun s => s.startEvents t k dv

def setEventMask (i : Interface) (k : Kernel) (dv : UInt32) (mask : UInt64) :
    Reply Unit × Interface × Kernel :=
  i.withKernel k fun s =>
    let (outcome, k) := s.setEventMask k dv mask
    (outcome, s, k)

def stopEvents (i : Interface) (k : Kernel) (dv : UInt32) : Reply Unit × Interface × Kernel :=
  i.withKernel k fun s => s.stopEvents k dv

/-- Events of any device in the caller's room, which must not be empty. -/
def events (i : Interface) (k : Kernel) (timeout : Int) (capacity : Option UInt32)
    (hasRoom : Bool) : FilledList EventData × Interface × Kernel :=
  let (answer, i, k) := i.withKernel k fun s =>
    match capacity with
    | none => (.fail .invalidArgs, s, k)
    | some capacity =>
      if !hasRoom || capacity = 0 then (.fail .invalidArgs, s, k)
      else s.events k timeout capacity.toNat
  (fillList capacity hasRoom (answer.map fun found => found.map EventData.ofNotification), i, k)

end Interface

end GpuManagement
