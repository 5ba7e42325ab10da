import GpuManagement.Topology.Address
import GpuManagement.Topology.Link

/-!
# Compute nodes

The driver numbers the processors and cards of a system as nodes. A node with a card number is a
card: it has a name, links, the processor it is closest to and a count of compute units. Any other
node is a processor, of which no more than its properties is read.
-/

namespace GpuManagement

/-- The processor a card is closest to. -/
structure NumaEdge where
  node : UInt32
  weight : UInt64
  kind : LinkKind
  deriving DecidableEq, Repr

/-- A node of the driver's topology. -/
structure Node where
  index : UInt32
  /-- The driver's own number of a card, zero for a processor. -/
  gpuId : UInt64
  name : List Char
  hive : UInt64
  properties : Table String UInt64
  numa : Option NumaEdge
  /-- The links to other cards, by their nodes. -/
  links : Table UInt32 Link
  peerLinks : Table UInt32 Link
  cuCount : UInt64
  /-- The device that stands for the node, once there is one. -/
  deviceIndex : Option UInt32
  deriving DecidableEq, Repr

namespace Node

def propertyFile (nodesRoot : Path) (index : UInt32) : Path :=
  (Link.nodeDirectory nodesRoot index).child "properties"

/-- Whether a node has any property; the driver leaves stale nodes without. -/
def isSupported (t : Tree) (nodesRoot : Path) (index : UInt32) : Bool :=
  match Files.readProperties t (propertyFile nodesRoot index) with
  | .ok _ => true
  | .error _ => false

def readGpuId (t : Tree) (nodesRoot : Path) (index : UInt32) : Outcome UInt64 := do
  let p := (Link.nodeDirectory nodesRoot index).child "gpu_id"
  let text ← Files.readText t p
  let digits := text.filter (· ≠ '\n')
  if !Text.isNumber digits then .error (.access p .noAddress)
  else
    match Text.readU64? 10 digits with
    | some id => .ok id
    | none => .error (.malformedFile p (.gpuIdTooLarge digits))

/-- The lighter of two edges to a processor, the earlier one when they weigh the same. -/
def closer (edge : Option NumaEdge) (link : Link) : Option NumaEdge :=
  match edge with
  | none => some ⟨link.target, link.weight, link.kind⟩
  | some old =>
    if link.weight < old.weight then some ⟨link.target, link.weight, link.kind⟩ else some old

/-- The links of a card, each with whether it leads to a processor. -/
def classifyLinks (t : Tree) (nodesRoot : Path) (table : Table UInt32 Link) :
    Outcome (List (Link × Bool)) :=
  table.mapM fun entry => do
    let id ← readGpuId t nodesRoot entry.1
    .ok (entry.2, id == 0)

/-- The product of the properties that make up the count of compute units. -/
def computeUnits (index : UInt32) (properties : Table String UInt64) : Outcome UInt64 :=
  ["simd_arrays_per_engine", "array_count", "cu_per_simd_array"].foldlM
    (fun product key =>
      match properties.get? key with
      | none => .error (.startup (.missingProperty index key))
      | some factor =>
        if product.toNat * factor.toNat < UInt64.size then .ok (product * factor)
        else .fail .unexpectedData) 1

/-- The links in the table of a card that `keep` takes, by the node they lead to. -/
def linksWhere (keep : Bool → Bool) (links : List (Link × Bool)) : List Link :=
  (links.filter fun link => keep link.2).map Prod.fst

def readCard (t : Tree) (nodesRoot : Path) (index : UInt32) (gpuId : UInt64)
    (properties : Table String UInt64) : Outcome Node := do
  let directory := Link.nodeDirectory nodesRoot index
  let name :=
    match Files.readText t (directory.child "name") with
    | .ok text => text.filter (· ≠ '\n')
    | .error _ => []
  match properties.get? "hive_id" with
  | none => .error (.startup (.missingHive index))
  | some hive =>
    match Link.ofNode t nodesRoot index .host with
    | .error cause => .error (.startupStage (.nodeLinks index) cause)
    | .ok table =>
      let links ← classifyLinks t nodesRoot table
      let peerLinks :=
        match Link.ofNode t nodesRoot index .peer with
        | .ok table => table
        | .error _ => []
      let cuCount ← computeUnits index properties
      .ok
        { index, gpuId, name, hive, properties, peerLinks, cuCount
          numa := (linksWhere id links).foldl closer none
          links := (linksWhere not links).map fun link => (link.target, link)
          deviceIndex := none }

def read (t : Tree) (nodesRoot : Path) (index : UInt32) : Outcome Node := do
  let properties ← Files.readProperties t (propertyFile nodesRoot index)
  let gpuId ← readGpuId t nodesRoot index
  if gpuId = 0 then
    .ok
      { index, gpuId, properties, name := [], hive := 0, numa := none, links := [], peerLinks := []
        cuCount := 0, deviceIndex := none }
  else readCard t nodesRoot index gpuId properties

def property (n : Node) (key : String) : Outcome UInt64 :=
  .ofOption .invalidArgs (n.properties.get? key)

def address (n : Node) : Outcome BusAddress := do
  let location ← n.property "location_id"
  let domain ← n.property "domain"
  .ok ((domain <<< 32) ||| location)

def linkTo (n : Node) (target : UInt32) : Outcome Link :=
  .ofOption .invalidArgs (n.links.get? target)

/-- A node that counts as a card, with its address. -/
def cardEntry (t : Tree) (nodesRoot : Path) (index : UInt32) :
    Outcome (Option (BusAddress × Node)) :=
  if !isSupported t nodesRoot index then .ok none
  else do
    let node ← read t nodesRoot index
    if node.gpuId = 0 then .ok none
    else
      match node.address with
      | .ok address => .ok (some (address, node))
      | .error _ => .error (.startup (.missingAddress index))

/-- All cards by address. Stale nodes and processors are passed over. -/
def cards (t : Tree) (nodesRoot : Path) : Outcome (Table BusAddress Node) := do
  let entries ← (Files.numberedEntries t nodesRoot).mapM fun entry =>
    cardEntry t nodesRoot entry.1
  .ok (Table.ofEntries (entries.filterMap id))

end Node

end GpuManagement
