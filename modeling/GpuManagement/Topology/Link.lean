import GpuManagement.Files.Read

/-!
# Links between nodes

Every node lists its links in two directories, one for links through the host and one for links
between cards. A link has a property file, and a table of links has one entry for each node at the
other end; of two links to the same node the one with the greater number counts.
-/

namespace GpuManagement

/-- The technology of a link, as the driver numbers it. -/
inductive LinkKind where
  | undefined
  | hyperTransport
  | pciExpress
  | amba
  | mipi
  | qpi
  | rapidIo
  | infiniband
  | xgmi
  | xgop
  | gz
  | ethernetRdma
  | rdmaOther
  | other
  | unknown (number : UInt64)
  deriving DecidableEq, Repr

def LinkKind.ofNumber (n : UInt64) : LinkKind :=
  if n = 0 then undefined
  else if n = 1 then hyperTransport
  else if n = 2 then pciExpress
  else if n = 3 then amba
  else if n = 4 then mipi
  else if n = 5 then qpi
  else if n = 8 then rapidIo
  else if n = 9 then infiniband
  else if n = 11 then xgmi
  else if n = 12 then xgop
  else if n = 13 then gz
  else if n = 14 then ethernetRdma
  else if n = 15 then rdmaOther
  else if n = 16 then other
  else unknown n

/-- The technologies that callers tell apart. -/
inductive RouteKind where
  | undefined
  | pciExpress
  | xgmi
  deriving DecidableEq, Repr

/-- The number of a technology that callers tell apart. -/
def RouteKind.number : RouteKind → Nat
  | undefined => 0
  | pciExpress => 1
  | xgmi => 2

/-- What callers are told of a technology. -/
def LinkKind.route : LinkKind → RouteKind
  | pciExpress => .pciExpress
  | xgmi => .xgmi
  | _ => .undefined

/-- The directory of a node that a link is listed in. -/
inductive LinkDirectory where
  | host
  | peer
  deriving DecidableEq, Repr

def LinkDirectory.name : LinkDirectory → String
  | host => "io_links"
  | peer => "p2p_links"

/-- A link from one node to another. -/
structure Link where
  /-- The node in whose directory the link is listed. -/
  listedAt : UInt32
  number : UInt32
  directory : LinkDirectory
  kind : LinkKind
  source : UInt32
  target : UInt32
  weight : UInt64
  minBandwidth : UInt64
  maxBandwidth : UInt64
  deriving DecidableEq, Repr

namespace Link

def nodeDirectory (nodesRoot : Path) (node : UInt32) : Path := nodesRoot.childNumber node.toNat

def file (nodesRoot : Path) (node number : UInt32) (directory : LinkDirectory) : Path :=
  (((nodeDirectory nodesRoot node).child directory.name).childNumber number.toNat).child
    "properties"

def required (p : Path) (table : Table String UInt64) (key : String) : Outcome UInt64 :=
  match table.get? key with
  | some value => .ok value
  | none => .error (.malformedFile p (.missingLinkKey key))

/-- The number of a node in the property `key`. -/
def nodeNumber (p : Path) (key : String) (value : UInt64) : Outcome UInt32 :=
  if value.toNat < UInt32.size then .ok value.toUInt32
  else .error (.malformedFile p (.linkValueTooLarge key value))

def ofProperties (p : Path) (node number : UInt32) (directory : LinkDirectory)
    (table : Table String UInt64) : Outcome Link := do
  let kind ← required p table "type"
  let source ← required p table "node_from"
  let target ← required p table "node_to"
  let weight ← required p table "weight"
  let minBandwidth ← required p table "min_bandwidth"
  let maxBandwidth ← required p table "max_bandwidth"
  let source ← nodeNumber p "node_from" source
  let target ← nodeNumber p "node_to" target
  .ok ⟨node, number, directory, .ofNumber kind, source, target, weight, minBandwidth,
    maxBandwidth⟩

def read (t : Tree) (nodesRoot : Path) (node number : UInt32) (directory : LinkDirectory) :
    Outcome Link := do
  let p := file nodesRoot node number directory
  let table ← Files.readProperties t p
  ofProperties p node number directory table

/-- The links in one directory of a node, by the node they lead to. -/
def ofNode (t : Tree) (nodesRoot : Path) (node : UInt32) (directory : LinkDirectory) :
    Outcome (Table UInt32 Link) := do
  let listed := (nodeDirectory nodesRoot node).child directory.name
  let links ← (Files.numberedEntries t listed).mapM fun entry =>
    read t nodesRoot node entry.1 directory
  .ok (Table.ofEntries (links.map fun link => (link.target, link)))

/-- The links of all nodes, by the two nodes they join. -/
def all (t : Tree) (nodesRoot : Path) (directory : LinkDirectory) :
    Outcome (Table (UInt32 × UInt32) Link) := do
  let tables ← (Files.numberedEntries t nodesRoot).mapM fun entry =>
    ofNode t nodesRoot entry.1 directory
  .ok (Table.ofEntries
    (tables.flatMap fun links => links.values.map fun link => ((link.source, link.target), link)))

end Link

end GpuManagement
