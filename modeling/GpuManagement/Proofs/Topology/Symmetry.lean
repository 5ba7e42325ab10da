import GpuManagement.Proofs.Data.Table
import GpuManagement.Proofs.Topology.Inventory
import GpuManagement.Topology.Route

/-!
# Routes in both directions

The two directions of a route are worked out from different tables: each of two cards has a list of
its own links, and the links between processors are listed by the ordered pair of their ends. A
system is symmetric when every link has a counterpart of the same kind and weight. Then a route is
the same in both directions, and so is what is told of it, failures included
(`Route.isMutual_of_isSymmetric`).

Weights are added as words of 64 bits, in an order that depends on the direction for the two ends of
the route only. So it makes no difference whether a sum wraps around.
-/

namespace GpuManagement

/-- What a route takes from a link. -/
def Link.cost (link : Link) : LinkKind × UInt64 := (link.kind, link.weight)

def Link.bandwidths (link : Link) : UInt64 × UInt64 := (link.minBandwidth, link.maxBandwidth)

namespace Inventory

variable {α : Type} {v : Inventory}

/-- What is told of two nodes of devices does not depend on their order. -/
def Mutual (v : Inventory) (f : Node → Node → α) : Prop :=
  ∀ m ∈ v.boundNodes, ∀ n ∈ v.boundNodes, f m n = f n m

instance [DecidableEq α] (v : Inventory) (f : Node → Node → α) : Decidable (v.Mutual f) :=
  inferInstanceAs (Decidable (∀ m ∈ v.boundNodes, ∀ n ∈ v.boundNodes, f m n = f n m))

/-- Every link between two devices has a counterpart of the same kind and weight, and so has every
link through the host. -/
structure IsSymmetric (v : Inventory) : Prop where
  cards : v.Mutual fun m n => (m.links.get? n.index).map Link.cost
  system : ∀ m n, (v.link? m n).map Link.cost = (v.link? n m).map Link.cost

/-- Counterparts of links between devices have the same bandwidths. -/
def HasMutualBandwidths (v : Inventory) : Prop :=
  v.Mutual fun m n => (m.links.get? n.index).map Link.bandwidths

/-- Every link between cards has a counterpart. -/
def HasMutualPeers (v : Inventory) : Prop := v.Mutual fun m n => m.peerLinks.has n.index

instance (v : Inventory) : Decidable v.HasMutualBandwidths :=
  inferInstanceAs (Decidable (v.Mutual _))

instance (v : Inventory) : Decidable v.HasMutualPeers := inferInstanceAs (Decidable (v.Mutual _))

/-- Counterparts need to be looked for where there is a link only. -/
theorem system_iff :
    (∀ m n, (v.link? m n).map Link.cost = (v.link? n m).map Link.cost) ↔
      ∀ ends ∈ v.links.keys,
        (v.link? ends.1 ends.2).map Link.cost = (v.link? ends.2 ends.1).map Link.cost := by
  refine ⟨fun h ends _ => h ends.1 ends.2, fun h m n => ?_⟩
  have missing : ∀ {ends}, ends ∉ v.links.keys → v.links.get? ends = none := fun no =>
    Option.not_isSome_iff_eq_none.mp fun some => no (Table.get?_isSome_iff.mp some)
  by_cases there : (m, n) ∈ v.links.keys
  · exact h (m, n) there
  · by_cases back : (n, m) ∈ v.links.keys
    · exact (h (n, m) back).symm
    · unfold link?
      rw [missing there, missing back]

instance (v : Inventory) : Decidable v.IsSymmetric :=
  -- named, since the instance that is found may go through all pairs of numbers there are
  have : Decidable (∀ ends ∈ v.links.keys,
      (v.link? ends.1 ends.2).map Link.cost = (v.link? ends.2 ends.1).map Link.cost) :=
    List.decidableBAll _ _
  decidable_of_iff
    ((v.Mutual fun m n => (m.links.get? n.index).map Link.cost) ∧
      ∀ ends ∈ v.links.keys,
        (v.link? ends.1 ends.2).map Link.cost = (v.link? ends.2 ends.1).map Link.cost)
    ⟨fun h => ⟨h.1, system_iff.mpr h.2⟩, fun h => ⟨h.cards, system_iff.mp h.system⟩⟩

/-- A device has a node, or the argument is invalid. -/
theorem node_cases (v : Inventory) (device : UInt32) :
    v.node device = .fail .invalidArgs ∨ ∃ n ∈ v.boundNodes, v.node device = .ok n := by
  unfold node boundAt
  cases h : v.bound[device.toNat]? with
  | none => exact .inl rfl
  | some b => exact .inr ⟨b.node, List.mem_map_of_mem (List.mem_of_getElem? h), rfl⟩

end Inventory

namespace Route

variable {α : Type} {v : Inventory} {source target : UInt32}

/-- A question about the nodes of two devices is answered alike in both directions if it is for any
two nodes. -/
theorem bind_nodes_comm {f : Node × Node → Outcome α} (alike : v.Mutual fun m n => f (m, n)) :
    (nodes v source target >>= f) = (nodes v target source >>= f) := by
  unfold nodes
  by_cases same : source = target
  · rw [same]
  · rw [if_neg same, if_neg (Ne.symm same)]
    rcases v.node_cases source with hs | ⟨m, hm, hs⟩
    · rcases v.node_cases target with ht | ⟨n, _, ht⟩
      · rw [hs, ht]
      · rw [hs, ht]
        rfl
    · rcases v.node_cases target with ht | ⟨n, hn, ht⟩
      · rw [hs, ht]
        rfl
      · rw [hs, ht]
        exact alike m hm n hn

/-- A route through processors takes the kind and the weight of their link. -/
theorem throughProcessors_congr {weight : UInt64} {link link' : Option Link}
    (h : link.map Link.cost = link'.map Link.cost) :
    throughProcessors weight link = throughProcessors weight link' := by
  cases link with
  | none =>
    cases link' with
    | none => rfl
    | some _ => cases h
  | some link =>
    cases link' with
    | none => cases h
    | some link' =>
      obtain ⟨kind, weight⟩ := Prod.mk.inj (Option.some.inj h)
      unfold throughProcessors isDirect
      simp only [kind, weight]

/-- **The route is the same in both directions.** -/
theorem between_comm (symmetric : v.IsSymmetric) :
    between v source target = between v target source := by
  refine bind_nodes_comm fun m hm n hn => ?_
  have links := symmetric.cards m hm n hn
  dsimp only at links ⊢
  cases there : m.links.get? n.index with
  | some link =>
    rw [there] at links
    obtain ⟨back, hb, cost⟩ := Option.map_eq_some_iff.mp links.symm
    obtain ⟨kind, weight⟩ := Prod.mk.inj cost
    rw [hb]
    simp only [kind, weight]
  | none =>
    rw [there] at links
    rw [Option.map_eq_none_iff.mp links.symm]
    cases m.numa with
    | none => cases n.numa <;> rfl
    | some near =>
      cases n.numa with
      | none => rfl
      | some far =>
        simp only [UInt64.add_comm near.weight far.weight, eq_comm (a := near.node),
          throughProcessors_congr (symmetric.system near.node far.node)]

/-- Links that have counterparts of the same kind and the same bandwidths allow the same traffic. -/
theorem bandwidthBetween_comm (symmetric : v.IsSymmetric)
    (bandwidths : v.HasMutualBandwidths) :
    bandwidthBetween v source target = bandwidthBetween v target source := by
  refine bind_nodes_comm fun m hm n hn => ?_
  have links := symmetric.cards m hm n hn
  have rates := bandwidths m hm n hn
  dsimp only at links rates ⊢
  cases there : m.links.get? n.index with
  | some link =>
    rw [there] at links rates
    obtain ⟨back, hb, cost⟩ := Option.map_eq_some_iff.mp links.symm
    obtain ⟨kind, _⟩ := Prod.mk.inj cost
    rw [hb] at rates ⊢
    obtain ⟨least, most⟩ := Prod.mk.inj (Option.some.inj rates)
    simp only [kind, least, most]
  | none =>
    rw [there] at links
    rw [Option.map_eq_none_iff.mp links.symm]

theorem isPeer_comm (symmetric : v.IsSymmetric) (peers : v.HasMutualPeers) :
    isPeer v source target = isPeer v target source := by
  refine bind_nodes_comm fun m hm n hn => ?_
  have links : m.links.has n.index = n.links.has m.index := by
    have h := congrArg Option.isSome (symmetric.cards m hm n hn)
    rwa [Option.isSome_map, Option.isSome_map] at h
  have peer : m.peerLinks.has n.index = n.peerLinks.has m.index := peers m hm n hn
  dsimp only
  rw [peer, links]

/-- Whatever two devices are asked about their route, both directions give the same answer or the
same failure. -/
structure IsMutual (v : Inventory) (source target : UInt32) : Prop where
  route : between v source target = between v target source
  weight : weightBetween v source target = weightBetween v target source
  kind : kindBetween v source target = kindBetween v target source
  bandwidth : v.HasMutualBandwidths →
    bandwidthBetween v source target = bandwidthBetween v target source
  peer : v.HasMutualPeers → isPeer v source target = isPeer v target source

/-- **In a symmetric system the two directions of a route are alike.** -/
theorem isMutual_of_isSymmetric (symmetric : v.IsSymmetric) (source target : UInt32) :
    IsMutual v source target where
  route := between_comm symmetric
  weight := by
    unfold weightBetween
    rw [between_comm symmetric]
  kind := by
    unfold kindBetween
    rw [between_comm symmetric]
  bandwidth := bandwidthBetween_comm symmetric
  peer := isPeer_comm symmetric

/-! ## Two cards with a link -/

/-- A card with a link to another: their nodes, the number of the card and its location. -/
def sampleEnd (node other gpuId location : Nat) : String × Tree :=
  (decimalText node, match Inventory.sampleNode gpuId location with
    | .directory entries => .directory (("io_links", .directory [("0", .directory [("properties",
        .file (Bytes.ofText ("type 11\nnode_from " ++ decimalText node ++ "\nnode_to " ++
          decimalText other ++ "\nweight 15\nmin_bandwidth 25000\nmax_bandwidth 50000\n")))])]) ::
      entries)
    | other => other)

/-- A system with two cards that have a link to each other. -/
def linkedSystem : Tree :=
  .directory [
    ("drm", .directory [
      ("card0", .directory [("device", .link "0000:03:00.0"), ("0000:03:00.0", .directory [])]),
      ("card1", .directory [("device", .link "0000:43:00.0"), ("0000:43:00.0", .directory [])])]),
    ("nodes", .directory [sampleEnd 1 2 21 0x300, sampleEnd 2 1 22 0x4300])]

theorem isMutual_linkedSystem :
    ∃ v, Inventory.discover linkedSystem Inventory.sampleConfig ⟨1⟩ = .ok v ∧
      v.HasMutualBandwidths ∧ v.HasMutualPeers ∧ IsMutual v 0 1 ∧
      between v 0 1 = .ok ⟨1, .xgmi, 15⟩ := by
  have seen : (do
      let v ← Inventory.discover linkedSystem Inventory.sampleConfig ⟨1⟩
      let route ← between v 0 1
      .ok (decide (v.IsSymmetric ∧ v.HasMutualBandwidths ∧ v.HasMutualPeers), route) :
        Outcome (Bool × Route)).toOption = some (true, ⟨1, .xgmi, 15⟩) := by decide +kernel
  obtain ⟨v, found, seen⟩ := Outcome.bind_eq_ok.mp (Outcome.toOption_eq_some.mp seen)
  obtain ⟨_, routed, seen⟩ := Outcome.bind_eq_ok.mp seen
  obtain ⟨decided, rfl⟩ := Prod.mk.inj (Except.ok.inj seen)
  obtain ⟨symmetric, bandwidths, peers⟩ := of_decide_eq_true decided
  exact ⟨v, found, bandwidths, peers, isMutual_of_isSymmetric symmetric 0 1, routed⟩

end Route

end GpuManagement
