import GpuManagement.Device.Basic

/-!
# The devices of a system

Two listings meet here: the graphics cards of the system and the driver's nodes. A card takes part
when it is of the right vendor; it sits at the address of its link, unless several nodes carry its
unique number, for then it is split and has a partition at the address of each of these nodes.
Devices are the cards and partitions that have a node at their address, in the order of the cards'
addresses.
-/

namespace GpuManagement

/-- A device together with the node that stands for it. -/
structure BoundDevice where
  device : Device
  node : Node
  deriving DecidableEq, Repr

/-- What a session knows about the machine. -/
structure Inventory where
  bound : List BoundDevice
  /-- The links through the host between any nodes. -/
  links : Table (UInt32 × UInt32) Link
  deriving DecidableEq, Repr

/-- A card, or a partition of one, that waits for its node. -/
structure Candidate where
  directory : Path
  cardNumber : UInt32
  address : BusAddress
  deriving DecidableEq, Repr

namespace Inventory

def vendor : UInt64 := 0x1002

def cardDirectory (root : Path) (n : UInt32) : Path := root.child ("card" ++ decimalText n.toNat)

def cardNumbers (t : Tree) (root : Path) : List UInt32 :=
  let named := (Files.listNames t root).filterMap fun name =>
    Files.numberAfter? "card".toList name.toList
  (Table.ofEntries ((named.filter fun n => t.isDirectory (cardDirectory root n)).map (·, ()))).keys

/-- Whether a card is of the vendor. -/
def isOfVendor (t : Tree) (card : Path) : Bool :=
  match Files.readWord t ((card.child "device").join Attribute.vendorId.file) with
  | .ok word => Files.hexNumber? word == some vendor
  | .error _ => false

/-- The addresses of the nodes with a unique number, ascending. -/
def partitionsOf (nodes : Table BusAddress Node) (uniqueId : UInt64) : List BusAddress :=
  (nodes.filter fun entry => entry.2.properties.get? "unique_id" == some uniqueId).map Prod.fst

/-- The addresses of the partitions of a card, none when it is not split. -/
def partitions (t : Tree) (nodes : Table BusAddress Node) (card : Path) : List BusAddress :=
  match Files.readHex t ((card.child "device").join Attribute.uniqueId.file) with
  | .error _ => []
  | .ok uniqueId =>
    let addresses := partitionsOf nodes uniqueId
    if 1 < addresses.length then addresses else []

def candidatesOf (t : Tree) (nodes : Table BusAddress Node) (root : Path) (n : UInt32) :
    Outcome (List Candidate) :=
  let card := cardDirectory root n
  match partitions t nodes card with
  | [] => do
    let address ← BusAddress.ofCardPath t card
    .ok [⟨card, n, address⟩]
  | addresses => .ok (addresses.map fun address => ⟨card, n, address⟩)

/-- The numbers of the cards that take part. -/
def eligible (t : Tree) (root : Path) (flags : InitFlags) : List UInt32 :=
  (cardNumbers t root).filter fun n => flags.allGpus || isOfVendor t (cardDirectory root n)

/-- All candidates in the order of the cards' addresses. -/
def candidates (t : Tree) (config : Config) (flags : InitFlags) (nodes : Table BusAddress Node) :
    Outcome (List Candidate) := do
  let found ← (eligible t config.drmRoot flags).mapM (candidatesOf t nodes config.drmRoot)
  .ok (sortBy (fun a b => decide ((BusAddress.ofCard a.address).toNat <
    (BusAddress.ofCard b.address).toNat)) found.flatten)

/-- Each candidate with the node at its address. A node is given once, and a candidate without a
node is dropped. Devices are numbered from `next` on. -/
def bind (t : Tree) (config : Config) (next : Nat) (nodes : Table BusAddress Node) :
    List Candidate → List BoundDevice
  | [] => []
  | c :: rest =>
    match nodes.get? c.address with
    | none => bind t config next nodes rest
    | some node =>
      { device := Device.ofCard t config c.directory c.cardNumber c.address node
        node := { node with deviceIndex := some (UInt32.ofNat next) } } ::
        bind t config (next + 1) (nodes.erase c.address) rest

/-- The devices and links of a system. -/
def discover (t : Tree) (config : Config) (flags : InitFlags) : Outcome Inventory := do
  let nodes ← Node.cards t config.nodesRoot
  let found ← candidates t config flags nodes
  match Link.all t config.nodesRoot .host with
  | .ok links => .ok ⟨bind t config 0 nodes found, links⟩
  | .error cause => .error (.startupStage .systemLinks cause)

/-! ## Questions -/

def count (v : Inventory) : Nat := v.bound.length

def boundAt (v : Inventory) (device : UInt32) : Outcome BoundDevice :=
  .ofOption .invalidArgs v.bound[device.toNat]?

def device (v : Inventory) (device : UInt32) : Outcome Device := do
  let b ← v.boundAt device
  .ok b.device

def node (v : Inventory) (device : UInt32) : Outcome Node := do
  let b ← v.boundAt device
  .ok b.node

/-- The device that stands for one of the driver's cards, the last one if there are several. -/
def deviceOfCard? (v : Inventory) (gpuId : UInt64) : Option UInt32 :=
  (v.bound.zipIdx.reverse.find? fun row => row.1.device.gpuId = gpuId).map fun row =>
    UInt32.ofNat row.2

/-- The link through the host between two nodes. -/
def link? (v : Inventory) (source target : UInt32) : Option Link := v.links.get? (source, target)

end Inventory

end GpuManagement
