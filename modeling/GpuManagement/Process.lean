import GpuManagement.Files.Read

/-!
# Processes on the cards

The driver keeps a directory for each process that computes, with the queues it has and the memory
and time it uses on each card. A process without an address space number is on its way out and is
passed over; a number that is no number is an error.
-/

namespace GpuManagement

open Text

/-- What a process uses. -/
structure ProcessUsage where
  pid : UInt32
  /-- The number of the address space. -/
  pasid : UInt32
  vram : UInt64
  sdma : UInt64
  /-- The share of the compute units in use, in percent. -/
  occupancy : UInt32
  deriving DecidableEq, Repr

namespace ProcessUsage

/-- The failure for a file that should hold a number. -/
def notANumber {α : Type} (p : Path) : Outcome α := .error (.access p .invalidArgument)

def digits? (word : List Char) : Option UInt64 := if isNumber word then readU64? 10 word else none

/-- The number in a file, digits only. -/
def readNumber (t : Tree) (p : Path) : Outcome UInt64 := do
  let word ← Files.readWord t p
  match digits? word with
  | some n => .ok n
  | none => notANumber p

/-- A number of 32 bits from a file. -/
def narrow (p : Path) (n : UInt64) : Outcome UInt32 :=
  if n.toNat < UInt32.size then .ok n.toUInt32 else notANumber p

/-- A process as it is listed, if it can be. -/
def listed? (t : Tree) (pid : UInt32) (directory : Path) : Outcome (Option ProcessUsage) :=
  let p := directory.child "pasid"
  match Files.readWord t p with
  | .error _ => .ok none
  | .ok word => do
    let n ←
      match digits? word with
      | some n => .ok n
      | none => notANumber p
    let pasid ← narrow p n
    .ok (some ⟨pid, pasid, 0, 0, 0⟩)

/-- The processes that compute, by ascending number. -/
def all (t : Tree) (root : Path) : Outcome (List ProcessUsage) := do
  let _ ← Files.atPath root (t.names root)
  let found ← (Files.numberedEntries t root).mapM fun entry => listed? t entry.1 entry.2
  .ok (found.filterMap id)

/-- The card that a queue is on; a queue that cannot be read has none. -/
def queueCard? (t : Tree) (queue : Path) : Outcome (Option UInt64) :=
  let p := queue.child "gpuid"
  match Files.readWord t p with
  | .error _ => .ok none
  | .ok word =>
    match readU64? 10 word with
    | some id => .ok (some id)
    | none => .error (.access p .noAddress)

/-- The cards a process has queues on, ascending. -/
def cards (t : Tree) (root : Path) (pid : UInt32) : Outcome (List UInt64) := do
  let queues := (root.childNumber pid.toNat).child "queues"
  if !t.isDirectory queues then .error (.access queues .noProcess)
  else
    let found ← (Files.numberedEntries t queues).mapM fun entry => queueCard? t entry.2
    .ok (Table.ofEntries (found.filterMap fun id => id.map (·, ()))).keys

/-- What a process uses of one card: memory, transfer time, and the compute units in use where the
driver counts them. -/
def onCard (t : Tree) (directory : Path) (card : UInt64) :
    Outcome (UInt64 × UInt64 × Option UInt64) := do
  let suffix := decimalText card.toNat
  let vram ← readNumber t (directory.child ("vram_" ++ suffix))
  let sdma ← readNumber t (directory.child ("sdma_" ++ suffix))
  let p := (directory.child ("stats_" ++ suffix)).child "cu_occupancy"
  match Files.readWord t p with
  | .error _ => .ok (vram, sdma, none)
  | .ok word =>
    match digits? word with
    | some units => .ok (vram, sdma, some units)
    | none => notANumber p

/-- The units in use as a share of all units, or their number where there are none to share. -/
def share (used total : UInt64) : UInt32 :=
  let value := if total = 0 then used else used * 100 / total
  UInt32.ofNat (min value.toNat (UInt32.size - 1))

/-- What a process uses on some cards. `unitsOf` gives the number of compute units of a card. -/
def ofProcess (t : Tree) (root : Path) (pid : UInt32) (cards : List UInt64)
    (unitsOf : UInt64 → Option UInt64) : Outcome ProcessUsage := do
  let directory := root.childNumber pid.toNat
  if !t.exists_ directory then .error (.access directory .noProcess)
  else
    let p := directory.child "pasid"
    let pasid ← readNumber t p
    let pasid ← narrow p pasid
    let uses ← cards.mapM fun card => do
      let (vram, sdma, units) ← onCard t directory card
      .ok (vram, sdma, units.getD 0, if units.isSome then (unitsOf card).getD 0 else 0)
    let total (part : UInt64 × UInt64 × UInt64 × UInt64 → UInt64) : UInt64 :=
      (uses.map part).foldl (· + ·) 0
    .ok
      { pid, pasid
        vram := total (·.1)
        sdma := total (·.2.1)
        occupancy := share (total (·.2.2.1)) (total (·.2.2.2)) }

end ProcessUsage

end GpuManagement
