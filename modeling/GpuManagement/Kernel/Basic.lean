import GpuManagement.Data.Table
import GpuManagement.Files.Tree
import GpuManagement.Kernel.Request

/-!
# The kernel

What the kernel will answer: for every stream of events and every performance counter a queue of
deliveries, and for every kind of request the refusals that lie ahead. Each answer is taken from the
front of its queue, and everything that is asked of the kernel is recorded in order.
-/

namespace GpuManagement

/-- What a stream delivers next. -/
inductive Delivery where
  | chunk (content : Bytes)
  | failure (errno : Int)
  /-- A read of no bytes. -/
  | ending
  /-- One wait that reports the other end as gone and nothing to read; a read finds no bytes. -/
  | hangUp
  deriving DecidableEq, Repr

/-- What a performance counter is opened with, apart from what is the same for all. -/
structure CounterRequest where
  pmuType : UInt32
  config : UInt64
  deriving DecidableEq, Repr

/-- Something that is open. -/
inductive Handle where
  | driver
  /-- The stream of events of a card. -/
  | events (card : UInt32)
  | counter (number : Nat)
  deriving DecidableEq, Repr

/-- Something that was asked of the kernel. -/
inductive KernelCall where
  | opened (handle : Handle)
  | driverRequest (number : UInt32) (argument : UInt32)
  | counterRequest (counter : Nat) (number : UInt32)
  | waited (streams : Nat) (timeout : Int)
  | wrote (card : UInt32) (content : Bytes)
  | counterOpening (request : CounterRequest)
  | closed (handle : Handle)
  deriving DecidableEq, Repr

/-- The answers that lie ahead, and the record of what was asked, the latest first. -/
structure Kernel where
  /-- Cards whose events are refused with an error number; `-1` answers with a bad descriptor. -/
  refusedStreams : Table UInt32 Int
  deliveries : Table UInt32 (List Delivery)
  waitFailures : List Int
  writeAnswers : Table UInt32 (List (Except Int Nat))
  openingFailures : List Int
  countersOpened : Nat
  counterDeliveries : Table Nat (List Delivery)
  requestFailures : Table Nat (List Int)
  record : List KernelCall
  deriving Repr

/-- How the kernel answers a request for events. -/
inductive StreamAnswer where
  | granted
  | badDescriptor
  | refused (errno : Int)
  deriving DecidableEq, Repr

namespace Kernel

/-- A kernel that refuses nothing but some streams and has nothing to deliver. -/
def fresh (refusedStreams : Table UInt32 Int) : Kernel where
  refusedStreams := refusedStreams
  deliveries := []
  waitFailures := []
  writeAnswers := []
  openingFailures := []
  countersOpened := 0
  counterDeliveries := []
  requestFailures := []
  record := []

/-- The kernel after a call was recorded. -/
def note (k : Kernel) (call : KernelCall) : Kernel := { k with record := call :: k.record }

/-- The record in order, and the kernel with an empty one. -/
def takeRecord (k : Kernel) : List KernelCall × Kernel :=
  (k.record.reverse, { k with record := [] })

/-- The first failure of a list, zero standing for none, and the rest. -/
def takeFailure : List Int → Option Int × List Int
  | [] => (none, [])
  | errno :: rest => (if errno = 0 then none else some errno, rest)

/-! ## Queues -/

/-- The entry of a queue, empty where there is none. -/
def queueAt {κ α : Type} [DecidableEq κ] (queues : Table κ (List α)) (key : κ) : List α :=
  (queues.get? key).getD []

/-- The queues with more at the end of one. -/
def enqueued {κ α : Type} [DecidableEq κ] [KeyOrder κ] (queues : Table κ (List α)) (key : κ)
    (more : List α) : Table κ (List α) := queues.insert key (queueAt queues key ++ more)

/-- More deliveries for the stream of a card. -/
def addDeliveries (k : Kernel) (card : UInt32) (more : List Delivery) : Kernel :=
  { k with deliveries := enqueued k.deliveries card more }

/-- More answers to writes to the stream of a card. -/
def addWriteAnswers (k : Kernel) (card : UInt32) (more : List (Except Int Nat)) : Kernel :=
  { k with writeAnswers := enqueued k.writeAnswers card more }

def addWaitFailures (k : Kernel) (more : List Int) : Kernel :=
  { k with waitFailures := k.waitFailures ++ more }

def addOpeningFailures (k : Kernel) (more : List Int) : Kernel :=
  { k with openingFailures := k.openingFailures ++ more }

def addCounterDeliveries (k : Kernel) (counter : Nat) (more : List Delivery) : Kernel :=
  { k with counterDeliveries := enqueued k.counterDeliveries counter more }

/-- More failures of requests to a counter. -/
def addRequestFailures (k : Kernel) (counter : Nat) (more : List Int) : Kernel :=
  { k with requestFailures := enqueued k.requestFailures counter more }

/-- The front of a queue read with room for `room` bytes: what is read, and the queue after. One
read takes bytes from one chunk only, and the rest of a chunk stays. -/
def readFront (room : Nat) : List Delivery → Except Fault Bytes × List Delivery
  | [] => (.ok [], [])
  | .chunk content :: rest =>
    (.ok (content.take room),
      if content.length ≤ room then rest else .chunk (content.drop room) :: rest)
  | .failure errno :: rest => (.error (.system errno), rest)
  | .ending :: rest | .hangUp :: rest => (.ok [], rest)

/-- Whether a wait finds something to read at the front of a queue, and the queue after the wait. -/
def waitFront : List Delivery → Bool × List Delivery
  | [] => (false, [])
  | .hangUp :: rest => (false, rest)
  | queue => (true, queue)

/-! ## The driver and its streams of events -/

/-- Opens the driver's device and asks for its version, whose answer is not needed. -/
def openDriver (k : Kernel) (t : Tree) (device : Path) : Except Fault Unit × Kernel :=
  match t.content device with
  | .error fault => (.error fault, k)
  | .ok _ =>
    (.ok (), (k.note (.opened .driver)).note (.driverRequest Request.driverVersion 0))

/-- Asks for the stream of events of a card. -/
def requestStream (k : Kernel) (card : UInt32) : StreamAnswer × Kernel :=
  let k := k.note (.driverRequest Request.eventStream card)
  match k.refusedStreams.get? card with
  | none => (.granted, k)
  | some errno => if errno = -1 then (.badDescriptor, k) else (.refused errno, k)

def closeDriver (k : Kernel) : Kernel := k.note (.closed .driver)

/-- Closes a stream; what it had to deliver is lost. -/
def closeStream (k : Kernel) (card : UInt32) : Kernel :=
  { k with deliveries := k.deliveries.erase card }.note (.closed (.events card))

/-- Writes to a stream; the answer is the number of bytes taken, all of them unless the kernel has
another answer ready. -/
def writeStream (k : Kernel) (card : UInt32) (content : Bytes) : Except Fault Nat × Kernel :=
  let k := k.note (.wrote card content)
  match queueAt k.writeAnswers card with
  | [] => (.ok content.length, k)
  | answer :: rest =>
    (answer.mapError .system, { k with writeAnswers := k.writeAnswers.insert card rest })

/-- Waits until one of some streams has something to read; the answer has a mark for each. -/
def waitStreams (k : Kernel) (cards : List UInt32) (timeout : Int) :
    Except Fault (List Bool) × Kernel :=
  let k := k.note (.waited cards.length timeout)
  let (failure, rest) := takeFailure k.waitFailures
  let k := { k with waitFailures := rest }
  match failure with
  | some errno => (.error (.system errno), k)
  | none =>
    let (marks, k) := cards.foldl
      (fun (marks, k) card =>
        let (ready, queue) := waitFront (queueAt k.deliveries card)
        (marks ++ [ready], { k with deliveries := k.deliveries.insert card queue }))
      (([] : List Bool), k)
    (.ok marks, k)

def readStream (k : Kernel) (card : UInt32) (room : Nat) : Except Fault Bytes × Kernel :=
  let (answer, queue) := readFront room (queueAt k.deliveries card)
  (answer, { k with deliveries := k.deliveries.insert card queue })

/-! ## Performance counters -/

/-- Opens a counter; counters are numbered in the order they were opened. -/
def openCounter (k : Kernel) (request : CounterRequest) : Except Fault Nat × Kernel :=
  let k := k.note (.counterOpening request)
  let (failure, rest) := takeFailure k.openingFailures
  let k := { k with openingFailures := rest }
  match failure with
  | some errno => (.error (.system errno), k)
  | none => (.ok k.countersOpened, { k with countersOpened := k.countersOpened + 1 })

def requestCounter (k : Kernel) (counter : Nat) (number : UInt32) : Except Fault Unit × Kernel :=
  let k := k.note (.counterRequest counter number)
  let (failure, rest) := takeFailure (queueAt k.requestFailures counter)
  let k := { k with requestFailures := k.requestFailures.insert counter rest }
  match failure with
  | some errno => (.error (.system errno), k)
  | none => (.ok (), k)

/-- The bytes still missing are read from the front of a queue until nothing comes; an interrupted
read is made again. -/
def fillFrom (missing : Nat) (filled : Bytes) :
    List Delivery → Except Fault Bytes × List Delivery
  | [] => (.ok filled, [])
  | .chunk content :: rest =>
    if missing = 0 then (.ok filled, .chunk content :: rest)
    else if content.isEmpty then (.ok filled, rest)
    else if content.length ≤ missing then
      fillFrom (missing - content.length) (filled ++ content) rest
    else (.ok (filled ++ content.take missing), .chunk (content.drop missing) :: rest)
  | .failure errno :: rest =>
    if missing = 0 then (.ok filled, .failure errno :: rest)
    else if errno = 4 then fillFrom missing filled rest
    else (.error (.system errno), rest)
  | .ending :: rest => (.ok filled, if missing = 0 then .ending :: rest else rest)
  | .hangUp :: rest => (.ok filled, if missing = 0 then .hangUp :: rest else rest)

/-- Reads from a counter until `size` bytes are there or nothing more comes. -/
def readCounter (k : Kernel) (counter size : Nat) : Except Fault Bytes × Kernel :=
  let (answer, queue) := fillFrom size [] (queueAt k.counterDeliveries counter)
  (answer, { k with counterDeliveries := k.counterDeliveries.insert counter queue })

def closeCounter (k : Kernel) (counter : Nat) : Kernel := k.note (.closed (.counter counter))

end Kernel

end GpuManagement
