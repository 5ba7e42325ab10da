import GpuManagement.Proofs.Topology.Inventory

/-!
# Devices stand at their cards

The node of a device should be a node of the device's own card. For a card that is not split this is
so without conditions: the node is the one at the address that the card's link names. The partitions
of a card that is split are looked up by the unique number of the card alone, and its link is not
asked. So the nodes of such a card are at its address when the nodes that carry its number are, and
of two cards that share a number the one with the lesser card number takes the nodes of both
(`IsPlaced`).

An address that a link names has the bits of the partition clear (`BusAddress.ofCard_of_ofCardPath`),
which is why it is compared with `BusAddress.ofCard`.
-/

namespace GpuManagement

/-! ## Addresses that are written out -/

namespace BusAddress

theorem hexField?_lt {cs : List Char} {n : UInt64} (h : hexField? cs = some n)
    (short : 16 ^ cs.length ≤ UInt64.size) : n.toNat < 16 ^ cs.length := by
  obtain ⟨k, hk, rfl⟩ := Option.map_eq_some_iff.mp h
  have below := Text.readNat?_lt hk
  rwa [UInt64.toNat_ofNat_of_lt' (Nat.lt_of_lt_of_le below short)]

/-- The bits that an address of a card has: all but those of the partition. -/
theorem testBit_cardBits : ∀ i : Fin 64,
    (0xFFFFFFFF0FFFFFFF : UInt64).toNat.testBit i = (decide (i.val < 28) || decide (32 ≤ i.val)) := by
  decide

/-- A domain above bus, device and function leaves the bits of the partition clear. -/
theorem ofCard_domain_or {low : UInt64} (small : low.toNat < 2 ^ 28) (domain : UInt64) :
    ofCard ((domain <<< 32) ||| low) = (domain <<< 32) ||| low := by
  unfold ofCard
  refine UInt64.toNat_inj.mp (Nat.eq_of_testBit_eq fun i => ?_)
  rw [UInt64.toNat_and, Nat.testBit_and]
  by_cases inside : i < 64
  · rw [testBit_cardBits ⟨i, inside⟩]
    by_cases partition : 28 ≤ i ∧ i < 32
    · have clear : ((domain <<< 32) ||| low).toNat.testBit i = false := by
        rw [UInt64.toNat_or, Nat.testBit_or, UInt64.toNat_shiftLeft, Nat.testBit_mod_two_pow,
          Nat.testBit_shiftLeft,
          Nat.testBit_lt_two_pow (Nat.lt_of_lt_of_le small (Nat.pow_le_pow_right (by decide) partition.1))]
        have below : ¬ 32 ≤ i := by omega
        simp [below]
      rw [clear, Bool.false_and]
    · have kept : (decide (i < 28) || decide (32 ≤ i)) = true := by
        rw [Bool.or_eq_true, decide_eq_true_eq, decide_eq_true_eq]
        omega
      rw [kept, Bool.and_true]
  · have outside := Nat.testBit_lt_two_pow (Nat.lt_of_lt_of_le
      ((domain <<< 32) ||| low).toNat_lt (Nat.pow_le_pow_right (by decide) (Nat.not_lt.mp inside)))
    rw [outside, Bool.false_and]

/-- Fields in their bounds leave the bits of the partition clear. -/
theorem ofCard_ofParts (domain : UInt64) {bus device function : UInt64} (hb : bus.toNat < 16 ^ 2)
    (hd : device.toNat ≤ 0x1F) (hf : function.toNat ≤ 0x7) :
    ofCard (ofParts domain bus device function) = ofParts domain bus device function := by
  unfold ofParts
  rw [UInt64.or_assoc, UInt64.or_assoc]
  refine ofCard_domain_or ?_ domain
  have bus_lt : (bus <<< 8).toNat < 2 ^ 28 := by
    rw [UInt64.toNat_shiftLeft, Nat.shiftLeft_eq]
    exact Nat.lt_of_le_of_lt (Nat.mod_le _ _) (show bus.toNat * 2 ^ 8 < _ by omega)
  have device_lt : (device <<< 3).toNat < 2 ^ 28 := by
    rw [UInt64.toNat_shiftLeft, Nat.shiftLeft_eq]
    exact Nat.lt_of_le_of_lt (Nat.mod_le _ _) (show device.toNat * 2 ^ 3 < _ by omega)
  rw [UInt64.toNat_or, UInt64.toNat_or]
  exact Nat.or_lt_two_pow bus_lt (Nat.or_lt_two_pow device_lt (by omega))

/-- An address that is written out is that of a whole card. -/
theorem ofCard_of_read? {cs : List Char} {a : BusAddress} (h : read? cs = some a) :
    ofCard a = a := by
  unfold read? at h
  split at h
  · obtain ⟨domain, _, h⟩ := Option.bind_eq_some_iff.mp h
    obtain ⟨bus, hb, h⟩ := Option.bind_eq_some_iff.mp h
    obtain ⟨device, _, h⟩ := Option.bind_eq_some_iff.mp h
    obtain ⟨function, _, h⟩ := Option.bind_eq_some_iff.mp h
    obtain ⟨fits, h⟩ := Option.ite_none_left_eq_some.mp h
    cases h
    rw [not_or, Nat.not_lt, Nat.not_lt] at fits
    exact ofCard_ofParts domain (hexField?_lt hb (by simp only [List.length]; decide)) fits.1 fits.2
  · cases h

/-- A link names the address of a whole card. -/
theorem ofCard_of_ofCardPath {t : Tree} {card : Path} {a : BusAddress}
    (h : ofCardPath t card = .ok a) : ofCard a = a := by
  obtain ⟨target, _, h⟩ := Outcome.bind_eq_ok.mp h
  split at h
  · rename_i read
    cases h
    exact ofCard_of_read? read
  · cases h

end BusAddress

namespace Inventory

variable {t : Tree} {config : Config} {flags : InitFlags} {nodes : Table BusAddress Node}
variable {cs : List Candidate}

/-! ## Which card gets a node -/

theorem pairwise_eligible (t : Tree) (root : Path) (flags : InitFlags) :
    (eligible t root flags).Pairwise (· < ·) := by
  unfold eligible cardNumbers
  refine List.Pairwise.sublist List.filter_sublist ((Table.ascending_ofEntries _).imp ?_)
  intro n m before
  exact of_decide_eq_true (p := n.toNat < m.toNat) before

/-- The candidates of the cards, one card after the other, are in the same order as all candidates
among those that are at one place. -/
theorem exists_filter_eq (h : candidates t config flags nodes = .ok cs) :
    ∃ lists,
      (eligible t config.drmRoot flags).mapM (candidatesOf t nodes config.drmRoot) = .ok lists ∧
      ∀ p : Candidate → Bool, (∀ c d, p c = true → p d = true →
        BusAddress.ofCard c.address = BusAddress.ofCard d.address) →
      cs.filter p = lists.flatten.filter p := by
  obtain ⟨lists, hm, h⟩ := Outcome.bind_eq_ok.mp h
  cases h
  refine ⟨lists, hm, fun p same => ?_⟩
  refine filter_sortBy (fun c : Candidate => (BusAddress.ofCard c.address).toNat) ?_ _
  exact fun c d hc hd => congrArg UInt64.toNat (same c d hc hd)

/-- Of the candidates at one address the first is of the card with the least number. -/
theorem cardNumber_le_of_find? (h : candidates t config flags nodes = .ok cs) {p : BusAddress}
    {c d : Candidate} (first : cs.find? (fun other => other.address = p) = some c) (hd : d ∈ cs)
    (there : d.address = p) : c.cardNumber ≤ d.cardNumber := by
  obtain ⟨found, hm, filtered⟩ := exists_filter_eq h
  have byCard : found.flatten.Pairwise fun c d => c.cardNumber ≤ d.cardNumber := by
    refine List.pairwise_flatten.mpr ⟨fun list hl => ?_, ?_⟩
    · obtain ⟨n, _, hlist⟩ := Outcome.exists_of_mem_mapM hm list hl
      refine List.pairwise_of_forall_mem_list fun c hc d hd => ?_
      rw [(card_of_mem_candidatesOf hlist hc).1, (card_of_mem_candidatesOf hlist hd).1]
      exact UInt32.le_refl n
    · refine Outcome.pairwise_of_mapM hm (pairwise_eligible t config.drmRoot flags) ?_
      intro n m l l' below hl hl' c hc d hd
      rw [(card_of_mem_candidatesOf hl hc).1, (card_of_mem_candidatesOf hl' hd).1]
      exact UInt32.le_of_lt below
  have kept : cs.filter (fun other => other.address = p) =
      found.flatten.filter fun other => other.address = p :=
    filtered _ fun a b ha hb => by rw [of_decide_eq_true ha, of_decide_eq_true hb]
  have ordered := byCard.sublist (List.filter_sublist (p := fun other => other.address = p))
  have member : d ∈ cs.filter fun other => other.address = p :=
    List.mem_filter.mpr ⟨hd, decide_eq_true there⟩
  rw [← List.head?_filter] at first
  obtain ⟨rest, e⟩ := List.head?_eq_some_iff.mp first
  rw [← kept, e] at ordered
  rw [e] at member
  rcases List.mem_cons.mp member with rfl | later
  · exact UInt32.le_refl _
  · exact (List.pairwise_cons.mp ordered).1 d later

/-! ## The node of a device -/

/-- Whose node a device has, and where the node is. -/
structure IsPlaced (t : Tree) (config : Config) (flags : InitFlags) (nodes : Table BusAddress Node)
    (b : BoundDevice) : Prop where
  card : TakesPart t config.drmRoot flags b.device.cardNumber ∧
    b.device.directory = cardDirectory config.drmRoot b.device.cardNumber
  node : b.node.address = .ok b.device.address
  /-- A card that is not split has the node at the address of its link. -/
  whole : (∀ uniqueId, ¬ IsSplit t nodes b.device.directory uniqueId) →
    BusAddress.ofCardPath t b.device.directory = .ok b.device.address
  /-- A partition has a node that carries the unique number of the card. -/
  carried : ∀ uniqueId, IsSplit t nodes b.device.directory uniqueId →
    b.node.properties.get? "unique_id" = some uniqueId
  /-- Of the cards that ask for the node the one with the least number gets it. -/
  first : ∀ n, TakesPart t config.drmRoot flags n →
    Contributes t nodes (cardDirectory config.drmRoot n) b.device.address → b.device.cardNumber ≤ n
  /-- The node is at the card, when the nodes that carry the number of a split card are. -/
  atCard : ∀ a, BusAddress.ofCardPath t b.device.directory = .ok a →
    (∀ uniqueId p, IsSplit t nodes b.device.directory uniqueId → Carries nodes uniqueId p →
      BusAddress.ofCard p = a) →
    BusAddress.ofCard b.device.address = a

theorem IsSplit.unique {card : Path} {u u' : UInt64} (h : IsSplit t nodes card u)
    (h' : IsSplit t nodes card u') : u = u' := by
  have same := h.1.symm.trans h'.1
  cases same
  rfl

/-- A node that a card asks for by its unique number carries this number. -/
theorem Contributes.carried {card : Path} {p : BusAddress} {n : Node} {uniqueId : UInt64}
    (h : Contributes t nodes card p) (there : nodes.get? p = some n)
    (split : IsSplit t nodes card uniqueId) : n.properties.get? "unique_id" = some uniqueId := by
  rcases h with ⟨own, split', n', there', carried⟩ | ⟨whole, _⟩
  · cases there.symm.trans there'
    rw [carried, split.unique split']
  · exact absurd split (whole uniqueId)

/-- An address that a card asks for is at the card, when the nodes with its number are. -/
theorem Contributes.atCard {card : Path} {p a : BusAddress} (h : Contributes t nodes card p)
    (link : BusAddress.ofCardPath t card = .ok a)
    (same : ∀ uniqueId p, IsSplit t nodes card uniqueId → Carries nodes uniqueId p →
      BusAddress.ofCard p = a) : BusAddress.ofCard p = a := by
  rcases h with ⟨own, split, carries⟩ | ⟨_, link'⟩
  · exact same own p split carries
  · cases link.symm.trans link'
    exact BusAddress.ofCard_of_ofCardPath link

/-- **Every device has the node of its own card**, as far as the unique numbers tell the cards
apart. -/
theorem discover_isPlaced {v : Inventory} (h : discover t config flags = .ok v) :
    ∃ nodes, Node.cards t config.nodesRoot = .ok nodes ∧
      ∀ b ∈ v.bound, IsPlaced t config flags nodes b := by
  obtain ⟨nodes, cs, hnodes, hcs, bound⟩ := bound_of_discover h
  have ascending := Node.ascending_cards hnodes
  refine ⟨nodes, hnodes, fun b hb => ?_⟩
  rw [bound] at hb
  obtain ⟨c, first, n, index, there, device, node⟩ := mem_bind hb
  obtain ⟨takes, directory, contributed⟩ :=
    card_of_mem_candidates ascending hcs (List.mem_of_find?_eq_some first)
  obtain ⟨_, _, address⟩ := Node.cardEntry_eq_some (Node.cardEntry_of_cards hnodes there)
  have home : b.device.directory = c.directory := by rw [device]; rfl
  have number : b.device.cardNumber = c.cardNumber := by rw [device]; rfl
  have place : b.device.address = c.address := by rw [device]; rfl
  constructor
  case card =>
    rw [home, number]
    exact ⟨takes, directory⟩
  case node =>
    rw [node, place]
    exact address
  case whole =>
    rw [home, place]
    intro whole
    rcases contributed with ⟨uniqueId, split, _⟩ | ⟨_, link⟩
    · exact absurd split (whole uniqueId)
    · exact link
  case carried =>
    rw [home, node]
    intro uniqueId split
    show n.properties.get? "unique_id" = some uniqueId
    exact contributed.carried there split
  case first =>
    rw [number, place]
    intro k takes' contributed'
    obtain ⟨d, hd, rfl, there'⟩ := exists_mem_candidates ascending hcs takes' contributed'
    exact cardNumber_le_of_find? hcs first hd there'
  case atCard =>
    rw [home, place]
    exact fun a link same => contributed.atCard link same

/-! ## Cards and their nodes, two cases -/

/-- A card at an address, with a unique number. -/
def numberedCard (address : String) : Tree :=
  .directory [("device", .link address),
    (address, .directory [("unique_id", .file (Bytes.ofText "7\n"))])]

/-- Two cards with the same unique number, and the node of each. -/
def sharedSystem : Tree :=
  .directory [("drm", .directory [("card0", numberedCard "0000:03:00.0"),
      ("card1", numberedCard "0000:43:00.0")]),
    ("nodes", .directory [("1", sampleNode 21 0x300), ("2", sampleNode 22 0x4300)])]

/-- Two devices of a card in two partitions are at the card. -/
theorem isPlaced_splitSystem :
    ∃ v, discover splitSystem sampleConfig ⟨1⟩ = .ok v ∧ v.bound.length = 2 ∧
      ∀ b ∈ v.bound, BusAddress.ofCard b.device.address = 0x300 := by
  -- one evaluation for both, as discovery reads the nodes too
  obtain ⟨listed, found⟩ :
      (Node.cards splitSystem sampleConfig.nodesRoot).toOption.map Table.keys =
          some [0x300, 0x10000300] ∧
        (discover splitSystem sampleConfig ⟨1⟩).toOption.map
            (fun v => v.bound.map fun b => b.device.directory) =
          some [cardDirectory sampleConfig.drmRoot 0, cardDirectory sampleConfig.drmRoot 0] := by
    decide +kernel
  have link : BusAddress.ofCardPath splitSystem (cardDirectory sampleConfig.drmRoot 0) = .ok 0x300 :=
    Outcome.toOption_eq_some.mp (by decide +kernel)
  obtain ⟨v, hv, directories⟩ := Option.map_eq_some_iff.mp found
  have hv := Outcome.toOption_eq_some.mp hv
  obtain ⟨nodes, hnodes, placed⟩ := discover_isPlaced hv
  rw [hnodes] at listed
  refine ⟨v, hv, ?_, fun b hb => (placed b hb).atCard 0x300 ?_ ?_⟩
  · rw [← List.length_map, directories]
    rfl
  · have home : b.device.directory ∈ v.bound.map fun b => b.device.directory :=
      List.mem_map.mpr ⟨b, hb, rfl⟩
    rw [directories] at home
    have home : b.device.directory = cardDirectory sampleConfig.drmRoot 0 := by simpa using home
    rw [home]
    exact link
  · rintro uniqueId p _ ⟨n, there, _⟩
    have key : p ∈ nodes.keys := Table.get?_isSome_iff.mp (by rw [there]; rfl)
    rw [Option.some.inj listed] at key
    rcases List.mem_cons.mp key with rfl | key
    · rfl
    · cases List.mem_singleton.mp key
      rfl

/-- Every node of the system names the address of one of its cards, and yet the first of two cards
with one unique number has a node that is at the second. -/
theorem misplaced_sharedSystem :
    ∃ v nodes, discover sharedSystem sampleConfig ⟨1⟩ = .ok v ∧
      Node.cards sharedSystem sampleConfig.nodesRoot = .ok nodes ∧
      (∀ p ∈ nodes.keys, ∃ n a, TakesPart sharedSystem sampleConfig.drmRoot ⟨1⟩ n ∧
        BusAddress.ofCardPath sharedSystem (cardDirectory sampleConfig.drmRoot n) = .ok a ∧
        BusAddress.ofCard p = a) ∧
      ∃ b ∈ v.bound, ∃ a p, BusAddress.ofCardPath sharedSystem b.device.directory = .ok a ∧
        b.node.address = .ok p ∧ BusAddress.ofCard p ≠ a := by
  obtain ⟨listed, found⟩ :
      (Node.cards sharedSystem sampleConfig.nodesRoot).toOption.map Table.keys =
          some [0x300, 0x4300] ∧
        (discover sharedSystem sampleConfig ⟨1⟩).toOption.map
            (fun v => v.bound.map fun b => (b.device.directory, b.node.address.toOption)) =
          some [(cardDirectory sampleConfig.drmRoot 0, some 0x300),
            (cardDirectory sampleConfig.drmRoot 0, some 0x4300)] := by
    decide +kernel
  have first : BusAddress.ofCardPath sharedSystem (cardDirectory sampleConfig.drmRoot 0) =
      .ok 0x300 := Outcome.toOption_eq_some.mp (by decide +kernel)
  have second : BusAddress.ofCardPath sharedSystem (cardDirectory sampleConfig.drmRoot 1) =
      .ok 0x4300 := Outcome.toOption_eq_some.mp (by decide +kernel)
  have wanted : ∀ n, sharedSystem.isDirectory (cardDirectory sampleConfig.drmRoot n) = true →
      TakesPart sharedSystem sampleConfig.drmRoot ⟨1⟩ n := fun n there => ⟨there, .inl rfl⟩
  obtain ⟨v, hv, devices⟩ := Option.map_eq_some_iff.mp found
  obtain ⟨nodes, hnodes, keys⟩ := Option.map_eq_some_iff.mp listed
  refine ⟨v, nodes, Outcome.toOption_eq_some.mp hv, Outcome.toOption_eq_some.mp hnodes, ?_, ?_⟩
  · intro p hp
    rw [keys] at hp
    rcases List.mem_cons.mp hp with rfl | hp
    · exact ⟨0, 0x300, wanted 0 (by decide +kernel), first, by decide⟩
    · cases List.mem_singleton.mp hp
      exact ⟨1, 0x4300, wanted 1 (by decide +kernel), second, by decide⟩
  · have other : (cardDirectory sampleConfig.drmRoot 0, some (0x4300 : BusAddress)) ∈
        v.bound.map fun b => (b.device.directory, b.node.address.toOption) := by
      rw [devices]
      exact List.mem_cons_of_mem _ List.mem_cons_self
    obtain ⟨b, hb, e⟩ := List.mem_map.mp other
    obtain ⟨directory, address⟩ := Prod.mk.inj e
    refine ⟨b, hb, 0x300, 0x4300, ?_, Outcome.toOption_eq_some.mp address, by decide⟩
    rw [directory]
    exact first

end Inventory

end GpuManagement
