import GpuManagement.Topology.Inventory

/-!
# Routes between devices

Two devices reach each other over a link of their own, through the processor both are closest to,
or through two processors. A link between processors that is missing, or too heavy to be direct,
makes the route one hop longer.
-/

namespace GpuManagement

/-- How one device reaches another. -/
structure Route where
  hops : Nat
  kind : RouteKind
  weight : UInt64
  deriving DecidableEq, Repr

namespace Route

/-- The weight of a link between processors that is not listed. -/
def unlistedWeight : UInt64 := 20

def extraHopWeight : UInt64 := 10

/-- The greatest weight of a direct link of the older technology between processors. -/
def directWeightLimit : UInt64 := 20

def nodes (v : Inventory) (source target : UInt32) : Outcome (Node × Node) := do
  if source = target then .fail .invalidArgs
  else
    let a ← v.node source
    let b ← v.node target
    .ok (a, b)

/-- Whether a link joins two processors directly. -/
def isDirect (link : Link) : Bool :=
  !(link.kind == .qpi && directWeightLimit.toNat < link.weight.toNat)

def throughProcessors (weight : UInt64) (link : Option Link) : Route :=
  match link with
  | none => ⟨4, .pciExpress, weight + unlistedWeight + extraHopWeight⟩
  | some link =>
    if isDirect link then ⟨3, .pciExpress, weight + link.weight⟩
    else ⟨4, .pciExpress, weight + link.weight + extraHopWeight⟩

/-- The route from one device to another. -/
def between (v : Inventory) (source target : UInt32) : Outcome Route := do
  let (a, b) ← nodes v source target
  match a.links.get? b.index with
  | some link => .ok ⟨1, link.kind.route, link.weight⟩
  | none =>
    match a.numa, b.numa with
    | some near, some far =>
      let weight := near.weight + far.weight
      if near.node = far.node then .ok ⟨2, .pciExpress, weight⟩
      else .ok (throughProcessors weight (v.link? near.node far.node))
    | _, _ => .fail .notSupported

def weightBetween (v : Inventory) (source target : UInt32) : Outcome UInt64 :=
  (between v source target).map Route.weight

/-- The hops and the kind of the route. -/
def kindBetween (v : Inventory) (source target : UInt32) : Outcome (Nat × RouteKind) :=
  (between v source target).map fun r => (r.hops, r.kind)

/-- The least and the greatest bandwidth, which only a direct link between cards has. -/
def bandwidthBetween (v : Inventory) (source target : UInt32) : Outcome (UInt64 × UInt64) := do
  let (a, b) ← nodes v source target
  match a.links.get? b.index with
  | some link =>
    if link.kind = .xgmi then .ok (link.minBandwidth, link.maxBandwidth) else .fail .notSupported
  | none => .fail .notSupported

/-- Whether a device reaches the memory of another by itself. -/
def isPeer (v : Inventory) (source target : UInt32) : Outcome Bool := do
  let (a, b) ← nodes v source target
  .ok (a.peerLinks.has b.index || a.links.has b.index)

/-- The processor that a device is closest to. -/
def numaNode (v : Inventory) (device : UInt32) : Outcome UInt32 := do
  let n ← v.node device
  .ofOption .notSupported (n.numa.map NumaEdge.node)

end Route

end GpuManagement
