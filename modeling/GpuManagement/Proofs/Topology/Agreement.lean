import GpuManagement.Proofs.Topology.Symmetry

/-!
# What is told of a route

Four questions can be asked about two devices, and each goes through the links and the processors of
their nodes by itself. `Route.Leads` says once which route there is between two nodes: a link of
their own, a processor that both are closest to, two processors with a direct link, or a detour. It
is what `Route.between` finds (`IsPair.between_cases`), and with it the questions are compared
(`Route.isCoherent`): they refuse the same devices, only a direct link between cards has bandwidths,
and whoever is one hop away is a peer.

Weights are words of 64 bits. The weight of a route through two processors is told as a sum of
numbers, for sums that fit.
-/

namespace GpuManagement

/-- The link is of the older technology and too heavy to be a direct one. -/
def Link.IsHeavy (link : Link) : Prop := link.kind = .qpi ∧ 20 < link.weight.toNat

instance (link : Link) : Decidable link.IsHeavy := inferInstanceAs (Decidable (_ ∧ _))

namespace Inventory

variable {v : Inventory} {device : UInt32}

/-- A device has a node when it is one of those that are counted. -/
theorem exists_node_iff : (∃ n, v.node device = .ok n) ↔ device.toNat < v.count := by
  unfold node boundAt count
  rw [Outcome.exists_bind_ok_iff]
  simp only [Outcome.ofOption_eq_ok]
  constructor
  · rintro ⟨b, found⟩
    exact (List.getElem?_eq_some_iff.mp found).1
  · intro below
    exact ⟨_, List.getElem?_eq_getElem below⟩

/-- What has no node is refused as a wrong argument. -/
theorem node_of_count_le (unknown : v.count ≤ device.toNat) :
    v.node device = .fail .invalidArgs := by
  rcases v.node_cases device with h | ⟨n, _, h⟩
  · exact h
  · exact absurd (exists_node_iff.mp ⟨n, h⟩) (Nat.not_lt.mpr unknown)

end Inventory

namespace Route

variable {v : Inventory} {source target : UInt32} {m n : Node} {r : Route}

/-! ## Devices that can be asked about -/

/-- The devices are the same, or one of them is not known. -/
def IsMisplaced (v : Inventory) (source target : UInt32) : Prop :=
  source = target ∨ v.count ≤ source.toNat ∨ v.count ≤ target.toNat

/-- Two devices with their nodes. -/
structure IsPair (v : Inventory) (source target : UInt32) (m n : Node) : Prop where
  apart : source ≠ target
  near : v.node source = .ok m
  far : v.node target = .ok n

theorem IsPair.not_isMisplaced (pair : IsPair v source target m n) :
    ¬ IsMisplaced v source target := by
  have near := Inventory.exists_node_iff.mp ⟨m, pair.near⟩
  have far := Inventory.exists_node_iff.mp ⟨n, pair.far⟩
  rintro (same | unknown | unknown)
  · exact pair.apart same
  · exact Nat.not_lt.mpr unknown near
  · exact Nat.not_lt.mpr unknown far

theorem IsPair.nodes_eq (pair : IsPair v source target m n) :
    nodes v source target = .ok (m, n) := by
  unfold nodes
  rw [if_neg pair.apart, pair.near, pair.far]
  rfl

/-- Devices are misplaced, and refused, or they have their nodes. -/
theorem nodes_cases (v : Inventory) (source target : UInt32) :
    IsMisplaced v source target ∧ nodes v source target = .fail .invalidArgs ∨
      ∃ m n, IsPair v source target m n := by
  unfold nodes
  by_cases same : source = target
  · exact .inl ⟨.inl same, if_pos same⟩
  · rw [if_neg same]
    by_cases near : source.toNat < v.count
    · obtain ⟨m, hm⟩ := Inventory.exists_node_iff.mpr near
      by_cases far : target.toNat < v.count
      · obtain ⟨n, hn⟩ := Inventory.exists_node_iff.mpr far
        exact .inr ⟨m, n, same, hm, hn⟩
      · have unknown := Nat.le_of_not_lt far
        rw [hm, Inventory.node_of_count_le unknown]
        exact .inl ⟨.inr (.inr unknown), rfl⟩
    · have unknown := Nat.le_of_not_lt near
      rw [Inventory.node_of_count_le unknown]
      exact .inl ⟨.inr (.inl unknown), rfl⟩

/-- A question that finds no fault with devices that have their nodes refuses the misplaced ones and
no others. -/
theorem invalidArgs_iff {α : Type} {f : Node × Node → Outcome α}
    (answered : ∀ {m n}, IsPair v source target m n →
      ¬ Outcome.FailsWith (nodes v source target >>= f) .invalidArgs) :
    Outcome.FailsWith (nodes v source target >>= f) .invalidArgs ↔
      IsMisplaced v source target := by
  rcases nodes_cases v source target with ⟨misplaced, refused⟩ | ⟨m, n, pair⟩
  · rw [refused]
    exact ⟨fun _ => misplaced, fun _ => ⟨_, rfl, rfl⟩⟩
  · exact ⟨fun fails => absurd fails (answered pair),
      fun misplaced => absurd misplaced pair.not_isMisplaced⟩

/-! ## Which route there is -/

/-- The nodes have no link of their own, and are closest to different processors. -/
structure AreRemote (m n : Node) (near far : NumaEdge) : Prop where
  unlinked : m.links.get? n.index = none
  source : m.numa = some near
  target : n.numa = some far
  distinct : near.node ≠ far.node

/-- There is no direct link between the processors: none is listed, or it is too heavy. -/
def IsIndirect (link : Option Link) : Prop := ∀ l, link = some l → l.IsHeavy

/-- The weight between two processors, also when no link is listed. -/
def weightOf (link : Option Link) : UInt64 := (link.map Link.weight).getD 20

/-- The routes from a node to another. -/
inductive Leads (v : Inventory) (m n : Node) : Route → Prop where
  | direct {link : Link} (own : m.links.get? n.index = some link) :
    Leads v m n ⟨1, link.kind.route, link.weight⟩
  | shared {near far : NumaEdge} (unlinked : m.links.get? n.index = none)
      (source : m.numa = some near) (target : n.numa = some far) (same : near.node = far.node) :
    Leads v m n ⟨2, .pciExpress, near.weight + far.weight⟩
  | crossed {near far : NumaEdge} (remote : AreRemote m n near far)
      (light : ¬ IsIndirect (v.links.get? (near.node, far.node))) :
    Leads v m n
      ⟨3, .pciExpress, near.weight + far.weight + weightOf (v.links.get? (near.node, far.node))⟩
  | detour {near far : NumaEdge} (remote : AreRemote m n near far)
      (heavy : IsIndirect (v.links.get? (near.node, far.node))) :
    Leads v m n
      ⟨4, .pciExpress,
        near.weight + far.weight + weightOf (v.links.get? (near.node, far.node)) + 10⟩

theorem isDirect_iff {link : Link} : isDirect link = true ↔ ¬ link.IsHeavy := by
  unfold isDirect Link.IsHeavy
  rw [Bool.not_eq_true', Bool.and_eq_false_iff, beq_eq_false_iff_ne, decide_eq_false_iff_not,
    Decidable.not_and_iff_or_not]
  exact Iff.rfl

/-- The route through two processors is a detour exactly when they have no direct link. -/
theorem leads_throughProcessors {near far : NumaEdge} (remote : AreRemote m n near far) :
    Leads v m n (throughProcessors (near.weight + far.weight)
      (v.links.get? (near.node, far.node))) := by
  cases listed : v.links.get? (near.node, far.node) with
  | none =>
    have heavy : IsIndirect (v.links.get? (near.node, far.node)) := fun l h => (by
      rw [listed] at h
      cases h)
    have route := Leads.detour remote heavy
    rwa [listed] at route
  | some link =>
    unfold throughProcessors
    by_cases light : isDirect link = true
    · have direct : ¬ IsIndirect (v.links.get? (near.node, far.node)) := fun heavy =>
        isDirect_iff.mp light (heavy link listed)
      have route := Leads.crossed remote direct
      rw [listed] at route
      simp only [if_pos light]
      exact route
    · have heavy : IsIndirect (v.links.get? (near.node, far.node)) := fun l h => (by
        cases listed.symm.trans h
        exact Decidable.not_not.mp fun other => light (isDirect_iff.mpr other))
      have route := Leads.detour remote heavy
      rw [listed] at route
      simp only [if_neg light]
      exact route

/-- **A route is found where there is one**; there is none for nodes without a link of which one is
close to no processor. -/
theorem IsPair.between_cases (pair : IsPair v source target m n) :
    (∃ r, between v source target = .ok r ∧ Leads v m n r) ∨
      between v source target = .fail .notSupported ∧
        m.links.get? n.index = none ∧ (m.numa = none ∨ n.numa = none) := by
  unfold between
  rw [pair.nodes_eq, Outcome.ok_bind]
  dsimp only
  cases own : m.links.get? n.index with
  | some link => exact .inl ⟨_, rfl, .direct own⟩
  | none =>
    cases source : m.numa with
    | none => exact .inr ⟨rfl, rfl, .inl rfl⟩
    | some near =>
      cases target : n.numa with
      | none => exact .inr ⟨rfl, rfl, .inr rfl⟩
      | some far =>
        refine .inl ?_
        by_cases same : near.node = far.node
        · exact ⟨_, if_pos same, .shared own source target same⟩
        · exact ⟨_, if_neg same, leads_throughProcessors ⟨own, source, target, same⟩⟩

/-- Nodes with a link of their own are one hop apart. -/
theorem Leads.eq_of_link {link : Link} (leads : Leads v m n r)
    (own : m.links.get? n.index = some link) : r = ⟨1, link.kind.route, link.weight⟩ := by
  cases leads with
  | direct own' =>
    cases own.symm.trans own'
    rfl
  | shared unlinked => cases own.symm.trans unlinked
  | crossed remote => cases own.symm.trans remote.unlinked
  | detour remote => cases own.symm.trans remote.unlinked

/-- One hop is a link of their own. -/
theorem Leads.link_of_hops_eq_one (leads : Leads v m n r) (one : r.hops = 1) :
    ∃ link, m.links.get? n.index = some link ∧ r.kind = link.kind.route := by
  cases leads with
  | direct own => exact ⟨_, own, rfl⟩
  | shared => cases one
  | crossed => cases one
  | detour => cases one

/-- The nodes have no link of their own, and are closest to the same processor. -/
def ShareProcessor (m n : Node) : Prop :=
  m.links.get? n.index = none ∧
    ∃ near far, m.numa = some near ∧ n.numa = some far ∧ near.node = far.node

/-- Nodes that share a processor are not remote. -/
theorem ShareProcessor.not_areRemote (share : ShareProcessor m n) {near far : NumaEdge} :
    ¬ AreRemote m n near far := by
  obtain ⟨_, near', far', source, target, same⟩ := share
  intro remote
  cases source.symm.trans remote.source
  cases target.symm.trans remote.target
  exact remote.distinct same

/-- Two hops are a processor that both are closest to. -/
theorem Leads.hops_eq_two_iff (leads : Leads v m n r) : r.hops = 2 ↔ ShareProcessor m n := by
  constructor
  · intro two
    cases leads with
    | direct => cases two
    | shared unlinked source target same => exact ⟨unlinked, _, _, source, target, same⟩
    | crossed => cases two
    | detour => cases two
  · intro share
    cases leads with
    | direct own => cases own.symm.trans share.1
    | shared => rfl
    | crossed remote => exact absurd remote share.not_areRemote
    | detour remote => exact absurd remote share.not_areRemote

/-- Nodes with a route have a link of their own, or are each close to a processor. -/
theorem Leads.not_apart (leads : Leads v m n r) :
    ¬ (m.links.get? n.index = none ∧ (m.numa = none ∨ n.numa = none)) := by
  rintro ⟨unlinked, far⟩
  have both {near far' : NumaEdge} (source : m.numa = some near) (target : n.numa = some far') :
      False := by
    rcases far with h | h
    · cases source.symm.trans h
    · cases target.symm.trans h
  cases leads with
  | direct own => cases own.symm.trans unlinked
  | shared _ source target => exact both source target
  | crossed remote => exact both remote.source remote.target
  | detour remote => exact both remote.source remote.target

/-- The weight of a route through two processors: both ways to them, the way between them, and the
hop that comes on top of a detour. -/
def fullWeight (near far : NumaEdge) (link : Option Link) (hops : Nat) : Nat :=
  near.weight.toNat + far.weight.toNat + (weightOf link).toNat + if hops = 4 then 10 else 0

/-- A route through the processors `near` and `far`: it is a detour when they have no direct link,
and has the weight of its parts. -/
structure Crosses (v : Inventory) (r : Route) (near far : NumaEdge) : Prop where
  detour : r.hops = 4 ↔ IsIndirect (v.links.get? (near.node, far.node))
  weight : fullWeight near far (v.links.get? (near.node, far.node)) r.hops < UInt64.size →
    r.weight.toNat = fullWeight near far (v.links.get? (near.node, far.node)) r.hops

/-- Three hops or four lead through two processors. -/
theorem Leads.crosses (leads : Leads v m n r) (long : r.hops = 3 ∨ r.hops = 4) :
    ∃ near far, AreRemote m n near far ∧ Crosses v r near far := by
  cases leads with
  | direct => rcases long with h | h <;> cases h
  | shared => rcases long with h | h <;> cases h
  | @crossed near far remote light =>
    refine ⟨near, far, remote, ⟨fun four => (by cases four), fun heavy => absurd heavy light⟩,
      fun fits => ?_⟩
    change (near.weight + far.weight + weightOf _).toNat = _
    simp only [UInt64.toNat_add, Nat.mod_add_mod]
    exact Nat.mod_eq_of_lt fits
  | @detour near far remote heavy =>
    refine ⟨near, far, remote, ⟨fun _ => heavy, fun _ => rfl⟩, fun fits => ?_⟩
    change (near.weight + far.weight + weightOf _ + 10).toNat = _
    simp only [UInt64.toNat_add, Nat.mod_add_mod]
    exact Nat.mod_eq_of_lt fits

/-! ## The answers compared -/

/-- No other technology is told as a link between cards. -/
theorem route_eq_xgmi_iff {kind : LinkKind} : kind.route = .xgmi ↔ kind = .xgmi := by
  cases kind with
  | xgmi => exact ⟨fun _ => rfl, fun _ => rfl⟩
  | _ => exact ⟨fun h => (by cases h), fun h => (by cases h)⟩

/-- The nodes have a link of their own that joins cards. -/
def AreJoined (m n : Node) : Prop := ∃ link, m.links.get? n.index = some link ∧ link.kind = .xgmi

theorem IsPair.kindBetween_iff (pair : IsPair v source target m n) :
    kindBetween v source target = .ok (1, .xgmi) ↔ AreJoined m n := by
  unfold kindBetween
  rw [Outcome.map_eq_ok]
  rcases pair.between_cases with ⟨r, found, leads⟩ | ⟨lost, unlinked, _⟩
  · rw [found]
    constructor
    · rintro ⟨_, same, told⟩
      cases same
      obtain ⟨one, xgmi⟩ := Prod.mk.inj told
      obtain ⟨link, own, kind⟩ := leads.link_of_hops_eq_one one
      exact ⟨link, own, route_eq_xgmi_iff.mp (kind.symm.trans xgmi)⟩
    · rintro ⟨link, own, joins⟩
      rw [leads.eq_of_link own]
      exact ⟨_, rfl, congrArg (Prod.mk 1) (route_eq_xgmi_iff.mpr joins)⟩
  · rw [lost]
    constructor
    · rintro ⟨_, h, _⟩
      cases h
    · rintro ⟨_, own, _⟩
      cases own.symm.trans unlinked

/-- Cards that are joined have the bandwidths of their link, and others have none. -/
theorem IsPair.bandwidth_cases (pair : IsPair v source target m n) :
    (AreJoined m n ∧ ∃ rates, bandwidthBetween v source target = .ok rates) ∨
      ¬ AreJoined m n ∧ bandwidthBetween v source target = .fail .notSupported := by
  unfold bandwidthBetween
  rw [pair.nodes_eq, Outcome.ok_bind]
  dsimp only
  cases own : m.links.get? n.index with
  | none => exact .inr ⟨fun ⟨_, own', _⟩ => (by cases own.symm.trans own'), rfl⟩
  | some link =>
    by_cases joins : link.kind = .xgmi
    · exact .inl ⟨⟨link, own, joins⟩, _, if_pos joins⟩
    · refine .inr ⟨?_, if_neg joins⟩
      rintro ⟨_, own', other⟩
      cases own.symm.trans own'
      exact joins other

theorem IsPair.isPeer_of_link (pair : IsPair v source target m n) {link : Link}
    (own : m.links.get? n.index = some link) : isPeer v source target = .ok true := by
  unfold isPeer
  rw [pair.nodes_eq, Outcome.ok_bind]
  dsimp only
  unfold Table.has
  rw [own, Option.isSome_some, Bool.or_true]

/-- What is told of two devices with their nodes. -/
structure Agrees (v : Inventory) (source target : UInt32) (m n : Node) : Prop where
  rates : (∃ rates, bandwidthBetween v source target = .ok rates) ↔
    kindBetween v source target = .ok (1, .xgmi)
  noRates : kindBetween v source target ≠ .ok (1, .xgmi) →
    bandwidthBetween v source target = .fail .notSupported
  /-- Whoever is one hop away is a peer. -/
  peer : ∀ r, between v source target = .ok r → r.hops = 1 → isPeer v source target = .ok true
  lost : ∀ e, between v source target = .error e ↔
    e = .status .notSupported ∧ m.links.get? n.index = none ∧ (m.numa = none ∨ n.numa = none)
  shared : (∃ r, between v source target = .ok r ∧ r.hops = 2) ↔ ShareProcessor m n
  far : ∀ r, between v source target = .ok r → r.hops = 3 ∨ r.hops = 4 →
    ∃ near far, AreRemote m n near far ∧ Crosses v r near far

/-- **What is told of two devices fits the route between them.** -/
theorem IsPair.agrees (pair : IsPair v source target m n) : Agrees v source target m n where
  rates := by
    rw [pair.kindBetween_iff]
    rcases pair.bandwidth_cases with ⟨joined, given⟩ | ⟨apart, refused⟩
    · exact ⟨fun _ => joined, fun _ => given⟩
    · exact ⟨fun ⟨_, given⟩ => (by cases given.symm.trans refused),
        fun joined => absurd joined apart⟩
  noRates other := by
    rcases pair.bandwidth_cases with ⟨joined, _⟩ | ⟨_, refused⟩
    · exact absurd (pair.kindBetween_iff.mpr joined) other
    · exact refused
  peer r found one := by
    rcases pair.between_cases with ⟨r', found', leads⟩ | ⟨lost, _⟩
    · cases found.symm.trans found'
      obtain ⟨_, own, _⟩ := leads.link_of_hops_eq_one one
      exact pair.isPeer_of_link own
    · cases found.symm.trans lost
  lost e := by
    rcases pair.between_cases with ⟨r, found, leads⟩ | ⟨lost, nowhere⟩
    · rw [found]
      exact ⟨fun h => (by cases h), fun ⟨_, nowhere⟩ => absurd nowhere leads.not_apart⟩
    · rw [lost]
      exact ⟨fun h => (by cases h; exact ⟨rfl, nowhere⟩),
        fun ⟨h, _⟩ => congrArg Except.error h.symm⟩
  shared := by
    rcases pair.between_cases with ⟨r, found, leads⟩ | ⟨lost, _, far⟩
    · rw [found, ← leads.hops_eq_two_iff]
      exact ⟨fun ⟨_, h, two⟩ => (by cases h; exact two), fun two => ⟨r, rfl, two⟩⟩
    · rw [lost]
      refine ⟨fun ⟨_, h, _⟩ => (by cases h), fun ⟨unlinked, _, _, source, target, same⟩ => ?_⟩
      exact absurd ⟨unlinked, far⟩ (Leads.shared (v := v) unlinked source target same).not_apart
  far r found long := by
    rcases pair.between_cases with ⟨r', found', leads⟩ | ⟨lost, _⟩
    · cases found.symm.trans found'
      exact leads.crosses long
    · cases found.symm.trans lost

/-- The questions about two devices refuse the same devices, and their answers agree for the
others. -/
structure IsCoherent (v : Inventory) (source target : UInt32) : Prop where
  weight : Outcome.FailsWith (weightBetween v source target) .invalidArgs ↔
    IsMisplaced v source target
  kind : Outcome.FailsWith (kindBetween v source target) .invalidArgs ↔
    IsMisplaced v source target
  bandwidth : Outcome.FailsWith (bandwidthBetween v source target) .invalidArgs ↔
    IsMisplaced v source target
  peer : Outcome.FailsWith (isPeer v source target) .invalidArgs ↔ IsMisplaced v source target
  agrees : ¬ IsMisplaced v source target →
    ∃ m n, IsPair v source target m n ∧ Agrees v source target m n

theorem between_invalidArgs_iff : Outcome.FailsWith (between v source target) .invalidArgs ↔
    IsMisplaced v source target := by
  refine invalidArgs_iff fun pair => ?_
  rintro ⟨e, failed, told⟩
  obtain ⟨rfl, _⟩ := (pair.agrees.lost e).mp failed
  cases told

theorem bandwidthBetween_invalidArgs_iff :
    Outcome.FailsWith (bandwidthBetween v source target) .invalidArgs ↔
      IsMisplaced v source target := by
  refine invalidArgs_iff fun pair => ?_
  rintro ⟨e, failed, told⟩
  rcases pair.bandwidth_cases with ⟨_, _, given⟩ | ⟨_, refused⟩
  · cases failed.symm.trans given
  · cases failed.symm.trans refused
    cases told

theorem isPeer_invalidArgs_iff : Outcome.FailsWith (isPeer v source target) .invalidArgs ↔
    IsMisplaced v source target := by
  refine invalidArgs_iff fun pair => ?_
  rw [pair.nodes_eq]
  exact Outcome.FailsWith.ok _

/-- **The questions about a route are coherent.** -/
theorem isCoherent (v : Inventory) (source target : UInt32) : IsCoherent v source target where
  weight := Outcome.FailsWith.map_iff.trans between_invalidArgs_iff
  kind := Outcome.FailsWith.map_iff.trans between_invalidArgs_iff
  bandwidth := bandwidthBetween_invalidArgs_iff
  peer := isPeer_invalidArgs_iff
  agrees placed := by
    rcases nodes_cases v source target with ⟨misplaced, _⟩ | ⟨m, n, pair⟩
    · exact absurd misplaced placed
    · exact ⟨m, n, pair, pair.agrees⟩

end Route

end GpuManagement
