import GpuManagement.Counter.Field
import GpuManagement.Counter.Group
import GpuManagement.Kernel.Basic

/-!
# Performance counters

A counter counts one event of one card. It is opened when it is first started, with the
configuration that the files of its group describe, and every reading tells how much was counted
since the reading before. A difference beyond any plausible one means that the counter was reset:
it is dropped and the counter is read again.
-/

namespace GpuManagement

/-- What a counter shows, or how it changed: a count, and for how long it was enabled and ran. -/
structure CounterValue where
  value : UInt64
  timeEnabled : UInt64
  timeRunning : UInt64
  deriving DecidableEq, Repr

/-- A counter of an event. -/
structure Counter where
  event : UInt32
  device : UInt32
  /-- The directory of the group of events. -/
  directory : Path
  /-- The kernel's number of the open counter. -/
  handle : Option Nat
  previous : UInt64
  deriving DecidableEq, Repr

namespace Counter

def ofEvent (root : Path) (card device event : UInt32) : Outcome Counter :=
  match EventGroup.ofEvent? event with
  | none => .fail .invalidArgs
  | some g => .ok ⟨event, device, root.child (g.directoryName card), none, 0⟩

def isOpen (c : Counter) : Bool := c.handle.isSome

/-! ## Configuration -/

/-- The value of a field with the place that the format directory gives it. -/
def fieldOf (c : Counter) (t : Tree) (item : List Char × UInt64) : Outcome FieldValue := do
  let format ← Files.readText t ((c.directory.child "format").join (String.ofList item.1))
  let (start, _) ← FieldValue.placeOf format
  .ok ⟨item.2, start⟩

/-- The number of the kind of counter. -/
def pmuType (c : Counter) (t : Tree) : Outcome UInt32 := do
  let p := c.directory.child "type"
  let n ← Files.readDecimal t p
  if n.toNat < UInt32.size then .ok n.toUInt32 else .error (.malformedFile p (.pmuTypeTooLarge n))

def request (c : Counter) (t : Tree) : Outcome CounterRequest := do
  let file ← Outcome.ofOption .invalidArgs (EventGroup.fileOfEvent? c.event)
  let text ← Files.readText t ((c.directory.child "events").child file)
  let items ← FieldValue.assignments text
  let fields ← items.mapM (c.fieldOf t)
  let pmuType ← c.pmuType t
  .ok ⟨pmuType, FieldValue.assemble fields⟩

/-! ## Starting and stopping -/

def openHandle (c : Counter) : Outcome Nat :=
  match c.handle with
  | some handle => .ok handle
  | none => .error (.system .badDescriptor)

/-- Opens the counter unless it is open. -/
def openOnce (c : Counter) (t : Tree) (k : Kernel) : Outcome Nat × Counter × Kernel :=
  match c.handle with
  | some handle => (.ok handle, c, k)
  | none =>
    match c.request t with
    | .error e => (.error e, c, k)
    | .ok request =>
      match k.openCounter request with
      | (.error fault, k) => (.error (.system fault), c, k)
      | (.ok handle, k) => (.ok handle, { c with handle := some handle }, k)

/-- Makes a request to an open counter. -/
def ask (k : Kernel) (handle : Nat) (number : UInt32) : Outcome Unit × Kernel :=
  match k.requestCounter handle number with
  | (.error fault, k) => (.error (.system fault), k)
  | (.ok (), k) => (.ok (), k)

def start (c : Counter) (t : Tree) (k : Kernel) : Outcome Unit × Counter × Kernel :=
  match c.openOnce t k with
  | (.error e, c, k) => (.error e, c, k)
  | (.ok handle, c, k) =>
    let (outcome, k) := ask k handle Request.enableCounter
    (outcome, c, k)

def stop (c : Counter) (k : Kernel) : Outcome Unit × Kernel :=
  match c.openHandle with
  | .error e => (.error e, k)
  | .ok handle => ask k handle Request.disableCounter

/-- Closes the counter if it is open. -/
def close (c : Counter) (k : Kernel) : Kernel :=
  match c.handle with
  | some handle => k.closeCounter handle
  | none => k

/-! ## Reading -/

def maxDelta : Nat := 0x1000000000000

/-- How often a counter is read for one reading. -/
def maxReads : Nat := 3

/-- A reading made from values that `next` gives in turn, with the state of its source after it. At
most `tries` values are taken, and the last one taken is the base of the next difference. -/
def sampleFrom {σ : Type} (next : σ → Outcome CounterValue × σ) :
    Nat → Counter → σ → Outcome CounterValue × Counter × σ
  | 0, c, s => (.fail .unexpectedData, c, s)
  | tries + 1, c, s =>
    match next s with
    | (.error e, s) => (.error e, c, s)
    | (.ok raw, s) =>
      let delta := raw.value - c.previous
      let c := { c with previous := raw.value }
      if maxDelta < delta.toNat then sampleFrom next tries c s
      else (.ok { raw with value := delta }, c, s)

/-- A reading made from values in turn. -/
def sample {σ : Type} (c : Counter) (next : σ → Outcome CounterValue × σ) (s : σ) :
    Outcome CounterValue × Counter × σ := sampleFrom next maxReads c s

/-- The next of some values or failures; when there is none left, there is no data. -/
def nextOf : List (Outcome CounterValue) → Outcome CounterValue × List (Outcome CounterValue)
  | [] => (.fail .noData, [])
  | value :: rest => (value, rest)

/-- A value takes three numbers of eight bytes. -/
def valueSize : Nat := 24

def valueOf (content : Bytes) : Outcome CounterValue :=
  if content.length = valueSize then
    let word (i : Nat) := UInt64.ofNat (Bytes.toNat ((content.drop (8 * i)).take 8))
    .ok ⟨word 0, word 1, word 2⟩
  else .error (.system .inputOutput)

def readValue (handle : Nat) (k : Kernel) : Outcome CounterValue × Kernel :=
  match k.readCounter handle valueSize with
  | (.error fault, k) => (.error (.system fault), k)
  | (.ok content, k) => (valueOf content, k)

/-- What was counted since the last reading. -/
def read (c : Counter) (k : Kernel) : Outcome CounterValue × Counter × Kernel :=
  match c.openHandle with
  | .error e => (.error e, c, k)
  | .ok handle => c.sample (readValue handle) k

end Counter

end GpuManagement
