import GpuManagement.Error
import GpuManagement.Events.Record
import GpuManagement.Kernel.Basic

/-!
# Listening for events

Devices listen through streams that the driver's device hands out. The device is opened for the
first stream and closed with the last; in between it is shared, and `users` counts the streams.
Records that were read but not asked for yet wait in `pending`.
-/

namespace GpuManagement

/-- Who listens, and what was heard. -/
structure EventNotifier where
  driver : Path
  driverOpen : Bool
  users : Nat
  /-- The devices that listen, each with the card its stream belongs to. -/
  listening : Table UInt32 UInt32
  pending : List EventNotification
  deriving DecidableEq, Repr

namespace EventNotifier

def ofDriver (driver : Path) : EventNotifier := ⟨driver, false, 0, [], []⟩

/-- The outcome of a call, with the state of the notifier and of the kernel after it. -/
abbrev Step (α : Type) := Outcome α × EventNotifier × Kernel

/-- Opens the driver's device unless it is open. -/
def openDriver (n : EventNotifier) (t : Tree) (k : Kernel) : Step Unit :=
  if n.driverOpen then (.ok (), n, k)
  else
    match k.openDriver t n.driver with
    | (.error fault, k) => (.error (.access n.driver fault), n, k)
    | (.ok (), k) => (.ok (), { n with driverOpen := true }, k)

/-- Closes the driver's device when no stream is left. -/
def closeUnused (n : EventNotifier) (k : Kernel) : EventNotifier × Kernel :=
  if n.users = 0 then
    ({ n with driverOpen := false }, if n.driverOpen then k.closeDriver else k)
  else (n, k)

/-- Asks for the stream of a device, the driver's device being open. -/
def addStream (n : EventNotifier) (k : Kernel) (device card : UInt32) : Step Unit :=
  match k.requestStream card with
  | (.granted, k) =>
    (.ok (), { n with users := n.users + 1, listening := n.listening.insert device card }, k)
  | (.badDescriptor, k) => (.error (.system .badDescriptor), n, k)
  | (.refused errno, k) =>
    let (n, k) := n.closeUnused k
    (.error (.system (.system errno)), n, k)

/-- Lets a device listen; one that listens already goes on as it is. -/
def start (n : EventNotifier) (t : Tree) (k : Kernel) (device card : UInt32) : Step Unit :=
  if n.listening.has device then (.ok (), n, k)
  else
    match n.openDriver t k with
    | (.error e, n, k) => (.error e, n, k)
    | (.ok (), n, k) => n.addStream k device card

def setMask (n : EventNotifier) (k : Kernel) (device : UInt32) (mask : UInt64) :
    Outcome Unit × Kernel :=
  match n.listening.get? device with
  | none => (.fail .initError, k)
  | some card =>
    match k.writeStream card (Bytes.ofNat 8 mask.toNat) with
    | (.error fault, k) => (.error (.system fault), k)
    | (.ok taken, k) => (if taken = 8 then .ok () else .fail .unexpectedSize, k)

/-- One read takes at most this many bytes. -/
def readRoom : Nat := 4096

/-- Reads once from each stream that has something, and adds the records to those that wait. A
failure ends the reading; what was read before it stays. -/
def collect (k : Kernel) (pending : List EventNotification) :
    List ((UInt32 × UInt32) × Bool) → Outcome Unit × List EventNotification × Kernel
  | [] => (.ok (), pending, k)
  | (_, false) :: rest => collect k pending rest
  | ((device, card), true) :: rest =>
    match k.readStream card readRoom with
    | (.error fault, k) => (.error (.system fault), pending, k)
    | (.ok content, k) =>
      let records := (EventRecord.ofBytes content).map fun r =>
        (⟨device, r.event, r.message⟩ : EventNotification)
      collect k (pending ++ records) rest

/-- Waits for the streams and reads from those that have something. -/
def listen (n : EventNotifier) (k : Kernel) (timeout : Int) : Step Unit :=
  match k.waitStreams n.listening.values timeout with
  | (.error fault, k) => (.error (.system fault), n, k)
  | (.ok marks, k) =>
    let (outcome, pending, k) := collect k n.pending (n.listening.zip marks)
    (outcome, { n with pending }, k)

/-- The first `limit` records that wait, which are then handed out. -/
def take (n : EventNotifier) (limit : Nat) : Outcome (List EventNotification) × EventNotifier :=
  match n.pending.take limit with
  | [] => (.fail .noData, n)
  | records => (.ok records, { n with pending := n.pending.drop limit })

/-- At most `limit` records. Only when fewer wait are the streams asked, and they are waited for
only when there is no record at all. -/
def get (n : EventNotifier) (k : Kernel) (timeout : Int) (limit : Nat) :
    Step (List EventNotification) :=
  if n.listening.isEmpty then (.fail .initError, n, k)
  else if limit ≤ n.pending.length then
    let (outcome, n) := n.take limit
    (outcome, n, k)
  else
    match n.listen k (if n.pending.isEmpty then timeout else 0) with
    | (.error e, n, k) => (.error e, n, k)
    | (.ok (), n, k) =>
      let (outcome, n) := n.take limit
      (outcome, n, k)

/-- Ends the listening of a device; its records that wait are dropped. -/
def stop (n : EventNotifier) (k : Kernel) (device : UInt32) : Step Unit :=
  match n.listening.get? device with
  | none => (.fail .invalidArgs, n, k)
  | some card =>
    let k := k.closeStream card
    let n :=
      { n with
        users := n.users - 1
        listening := n.listening.erase device
        pending := n.pending.filter fun r => r.device ≠ device }
    let (n, k) := n.closeUnused k
    (.ok (), n, k)

/-- Closes whatever is open, the driver's device first and then the streams in order. -/
def closeAll (n : EventNotifier) (k : Kernel) : Kernel :=
  n.listening.values.foldl Kernel.closeStream (if n.driverOpen then k.closeDriver else k)

end EventNotifier

end GpuManagement
