import GpuManagement.Proofs.Topology.Placement

/-!
# The partitions of a card stand together

A card that is split has a device for each node that carries its unique number. The devices come in
the order of the cards' addresses, in which the partition does not count, so the partitions of a card
are one block of them, unless another card is at the same address. Within the block they are in the
order of their own addresses: the partitions of a card are listed so, and ordering by the card's
address leaves them in that order. None is missing, because the nodes that make a card split are
those that its devices are bound to. `discover_areSideBySide` says all this by the indices of the
devices.
-/

namespace GpuManagement

/-! ## A list in order -/

section Ordered

variable {α : Type} {xs : List α}

/-- A list whose items with a property all come first is these items and then the others. -/
theorem eq_filter_append_filter {p : α → Bool}
    (first : xs.Pairwise fun x y => p y = true → p x = true) :
    xs = xs.filter p ++ xs.filter (!p ·) := by
  induction xs with
  | nil => rfl
  | cons x xs ih =>
    obtain ⟨head, tail⟩ := List.pairwise_cons.mp first
    by_cases hx : p x = true
    · rw [List.filter_cons_of_pos hx, List.filter_cons_of_neg (by simp [hx]), List.cons_append,
        ← ih tail]
    · have none : ∀ y ∈ x :: xs, ¬ p y = true :=
        List.forall_mem_cons.mpr ⟨hx, fun y hy h => hx (head y hy h)⟩
      rw [List.filter_eq_nil_iff.mpr none, List.nil_append, eq_comm, List.filter_eq_self]
      intro y hy
      rw [Bool.not_eq_true', Bool.eq_false_iff]
      exact none y hy

/-- In the order of a key the items with one key are between those with lesser and those with
greater keys. -/
theorem exists_eq_append_filter {key : α → Nat} (ordered : xs.Pairwise (key · ≤ key ·)) (k : Nat) :
    ∃ before after, xs = before ++ (xs.filter (key · = k) ++ after) ∧
      (∀ x ∈ before, key x < k) ∧ ∀ x ∈ after, k < key x := by
  have split := eq_filter_append_filter (p := (key · < k)) <| ordered.imp fun le h =>
    decide_eq_true (Nat.lt_of_le_of_lt le (of_decide_eq_true h))
  have split' := eq_filter_append_filter (p := (key · ≤ k)) <|
    (ordered.sublist (List.filter_sublist (p := (!key · < k)))).imp fun le h =>
      decide_eq_true (Nat.le_trans le (of_decide_eq_true h))
  have between : (xs.filter (!key · < k)).filter (key · ≤ k) = xs.filter (key · = k) := by
    rw [List.filter_filter]
    refine List.filter_congr fun x _ => ?_
    rw [Bool.eq_iff_iff]
    simp only [Bool.and_eq_true, Bool.not_eq_true', decide_eq_true_eq, decide_eq_false_iff_not]
    omega
  rw [between] at split'
  refine ⟨_, _, split.trans (congrArg _ split'), fun x hx => ?_, fun x hx => ?_⟩
  · exact of_decide_eq_true (List.mem_filter.mp hx).2
  · have greater := (List.mem_filter.mp hx).2
    rw [Bool.not_eq_true', decide_eq_false_iff_not, Nat.not_le] at greater
    exact greater

/-- In the order of a key the items with one key are one block: from some place on there are as many
of them as there are in all, and no others. -/
theorem exists_block (key : α → Nat) (ordered : xs.Pairwise (key · ≤ key ·)) (k : Nat) :
    ∃ first,
      (∀ i x, xs[i]? = some x →
        (key x = k ↔ first ≤ i ∧ i < first + (xs.filter (key · = k)).length)) ∧
      ∀ j x, (xs.filter (key · = k))[j]? = some x → xs[first + j]? = some x := by
  obtain ⟨before, after, split, lesser, greater⟩ := exists_eq_append_filter ordered k
  have equal : ∀ x ∈ xs.filter (key · = k), key x = k := fun x hx =>
    of_decide_eq_true (List.mem_filter.mp hx).2
  generalize xs.filter (key · = k) = block at split equal
  subst split
  refine ⟨before.length, fun i x hx => ?_, fun j x hx => ?_⟩
  · rcases Nat.lt_or_ge i before.length with here | past
    · rw [List.getElem?_append_left here] at hx
      have := lesser x (List.mem_of_getElem? hx)
      omega
    rw [List.getElem?_append_right past] at hx
    rcases Nat.lt_or_ge (i - before.length) block.length with here | past'
    · rw [List.getElem?_append_left here] at hx
      have := equal x (List.mem_of_getElem? hx)
      omega
    · rw [List.getElem?_append_right past'] at hx
      have := greater x (List.mem_of_getElem? hx)
      omega
  · rw [List.getElem?_append_right (Nat.le_add_right _ _), Nat.add_sub_cancel_left]
    exact (List.getElem?_append_left (List.getElem?_eq_some_iff.mp hx).1).trans hx

end Ordered

namespace Inventory

variable {t : Tree} {config : Config} {flags : InitFlags} {nodes : Table BusAddress Node}

/-! ## The addresses of a card's candidates -/

/-- The partitions of a card are listed in the order of their addresses. -/
theorem pairwise_partitions (ascending : nodes.Ascending) (t : Tree) (card : Path) :
    (partitions t nodes card).Pairwise (· < ·) := by
  unfold partitions
  cases Files.readHex t ((card.child "device").join Attribute.uniqueId.file) with
  | error _ => exact List.Pairwise.nil
  | ok uniqueId =>
    have listed : (partitionsOf nodes uniqueId).Pairwise (· < ·) :=
      (ascending.imp fun before => of_decide_eq_true before).sublist
        (List.filter_sublist.map Prod.fst)
    show List.Pairwise _ (if _ then _ else _)
    split
    · exact listed
    · exact List.Pairwise.nil

/-- The candidates of a card come in the order of their addresses. -/
theorem pairwise_candidatesOf (ascending : nodes.Ascending) {root : Path} {n : UInt32}
    {cs : List Candidate} (h : candidatesOf t nodes root n = .ok cs) :
    cs.Pairwise fun c d => c.address < d.address := by
  have listed := pairwise_partitions ascending t (cardDirectory root n)
  unfold candidatesOf at h
  simp only at h
  cases hp : partitions t nodes (cardDirectory root n) with
  | nil =>
    rw [hp] at h
    obtain ⟨address, _, h⟩ := Outcome.bind_eq_ok.mp h
    cases h
    exact List.pairwise_singleton _ _
  | cons first rest =>
    rw [hp] at h listed
    cases h
    exact List.pairwise_map.mpr listed

/-! ## A card that stands alone -/

/-- The card takes part and is split into partitions that are all at one address, at which no other
card is. -/
structure StandsAlone (t : Tree) (config : Config) (flags : InitFlags)
    (nodes : Table BusAddress Node) (card : UInt32) (uniqueId : UInt64) (home : BusAddress) :
    Prop where
  takesPart : TakesPart t config.drmRoot flags card
  split : IsSplit t nodes (cardDirectory config.drmRoot card) uniqueId
  together : ∀ p, Carries nodes uniqueId p → BusAddress.ofCard p = home
  alone : ∀ n, TakesPart t config.drmRoot flags n → n ≠ card → ∀ p,
    Contributes t nodes (cardDirectory config.drmRoot n) p → BusAddress.ofCard p ≠ home

section Alone

variable {card : UInt32} {uniqueId : UInt64} {home : BusAddress} {cs : List Candidate}
variable (alone : StandsAlone t config flags nodes card uniqueId home)

include alone

/-- What the card contributes are the addresses of the nodes that carry its number. -/
theorem StandsAlone.contributes_iff {p : BusAddress} :
    Contributes t nodes (cardDirectory config.drmRoot card) p ↔ Carries nodes uniqueId p := by
  refine ⟨?_, fun carries => .inl ⟨uniqueId, alone.split, carries⟩⟩
  rintro (⟨own, split, carries⟩ | ⟨whole, _⟩)
  · rwa [← split.unique alone.split]
  · exact absurd alone.split (whole uniqueId)

/-- Only the card contributes addresses at its place. -/
theorem StandsAlone.eq_card {n : UInt32} {p : BusAddress}
    (takes : TakesPart t config.drmRoot flags n)
    (contributed : Contributes t nodes (cardDirectory config.drmRoot n) p)
    (there : BusAddress.ofCard p = home) : n = card :=
  Decidable.byContradiction fun other => alone.alone n takes other p contributed there

/-- The candidates at the place of the card come in the order of their addresses. -/
theorem StandsAlone.pairwise_candidates (ascending : nodes.Ascending)
    (h : candidates t config flags nodes = .ok cs) :
    ((cs.map Candidate.address).filter (BusAddress.ofCard · = home)).Pairwise (· < ·) := by
  obtain ⟨found, hm, filtered⟩ := exists_filter_eq h
  -- of two candidates at the place both are the card's, since they are not another's
  have byCard : found.flatten.Pairwise fun c d =>
      BusAddress.ofCard c.address = home → BusAddress.ofCard d.address = home →
        c.address < d.address := by
    refine List.pairwise_flatten.mpr ⟨fun list hl => ?_, ?_⟩
    · obtain ⟨n, _, hlist⟩ := Outcome.exists_of_mem_mapM hm list hl
      exact (pairwise_candidatesOf ascending hlist).imp fun less _ _ => less
    · refine Outcome.pairwise_of_mapM hm
        (List.Pairwise.and_mem.mp (pairwise_eligible t config.drmRoot flags)) ?_
      intro n m list list' ⟨hn, hm, below⟩ hlist hlist' c hc d hd atHome atHome'
      have eq : n = card := alone.eq_card (mem_eligible.mp hn)
        ((mem_candidatesOf ascending hlist).mp ⟨c, hc, rfl⟩) atHome
      have eq' : m = card := alone.eq_card (mem_eligible.mp hm)
        ((mem_candidatesOf ascending hlist').mp ⟨d, hd, rfl⟩) atHome'
      rw [eq, eq'] at below
      exact absurd below (UInt32.lt_irrefl card)
  have kept : cs.filter (BusAddress.ofCard ·.address = home) =
      found.flatten.filter (BusAddress.ofCard ·.address = home) :=
    filtered _ fun a b ha hb => by rw [of_decide_eq_true ha, of_decide_eq_true hb]
  rw [List.filter_map, List.pairwise_map]
  show (cs.filter (BusAddress.ofCard ·.address = home)).Pairwise _
  rw [kept, List.pairwise_filter]
  exact byCard.imp fun less hc hd => less (of_decide_eq_true hc) (of_decide_eq_true hd)

/-- A device is the card's when it is at the place of the card. -/
theorem StandsAlone.directory_iff (ascending : nodes.Ascending)
    (h : candidates t config flags nodes = .ok cs) {b : BoundDevice}
    (hb : b ∈ bind t config 0 nodes cs) :
    b.device.directory = cardDirectory config.drmRoot card ↔
      BusAddress.ofCard b.device.address = home := by
  obtain ⟨c, first, n, _, _, device, _⟩ := mem_bind hb
  obtain ⟨takes, directory, contributed⟩ :=
    card_of_mem_candidates ascending h (List.mem_of_find?_eq_some first)
  have directory' : b.device.directory = c.directory := by rw [device]; rfl
  have address : b.device.address = c.address := by rw [device]; rfl
  rw [directory', address]
  constructor
  · intro own
    rw [own] at contributed
    exact alone.together _ (alone.contributes_iff.mp contributed)
  · intro there
    rw [directory] at contributed
    rw [directory, alone.eq_card takes contributed there]

/-- The addresses of the devices at the place of the card are those of the nodes that carry its
number. -/
theorem StandsAlone.mem_addresses_iff (ascending : nodes.Ascending)
    (h : candidates t config flags nodes = .ok cs) {p : BusAddress} :
    p ∈ (addresses (bind t config 0 nodes cs)).filter (BusAddress.ofCard · = home) ↔
      Carries nodes uniqueId p := by
  rw [List.mem_filter, mem_addresses_bind, mem_candidates ascending h, decide_eq_true_eq]
  constructor
  · rintro ⟨⟨⟨n, takes, contributed⟩, _⟩, there⟩
    rw [alone.eq_card takes contributed there] at contributed
    exact alone.contributes_iff.mp contributed
  · intro carries
    obtain ⟨n, there, _⟩ := id carries
    exact ⟨⟨⟨card, alone.takesPart, alone.contributes_iff.mpr carries⟩, by rw [there]; rfl⟩,
      alone.together p carries⟩

end Alone

/-! ## One block of devices -/

/-- The devices of a card are one block, which begins at an index. The devices of the block are at
the given places, in this order, and each is bound to the node at its place. -/
structure AreSideBySide (v : Inventory) (nodes : Table BusAddress Node) (card : Path) (first : Nat)
    (places : List BusAddress) : Prop where
  directory_iff : ∀ i b, v.bound[i]? = some b →
    (b.device.directory = card ↔ first ≤ i ∧ i < first + places.length)
  bound : ∀ j p, places[j]? = some p → ∃ b n, v.bound[first + j]? = some b ∧
    b.device.address = p ∧ nodes.get? p = some n ∧
    b.device.gpuId = n.gpuId ∧ b.device.nodeIndex = n.index ∧
    b.node = { n with deviceIndex := some (UInt32.ofNat (first + j)) }

/-- A device is bound to the node at its address, which has the number of the device. -/
theorem exists_node_of_getElem? {cs : List Candidate} {i : Nat} {b : BoundDevice}
    (h : (bind t config 0 nodes cs)[i]? = some b) :
    ∃ n, nodes.get? b.device.address = some n ∧
      b.device.gpuId = n.gpuId ∧ b.device.nodeIndex = n.index ∧
      b.node = { n with deviceIndex := some (UInt32.ofNat i) } := by
  obtain ⟨c, _, n, index, hn, device, node⟩ := mem_bind (List.mem_of_getElem? h)
  have numbered := bind_deviceIndex h
  rw [node, Nat.zero_add] at numbered
  have number : index = some (UInt32.ofNat i) := numbered
  rw [number] at node
  rw [device]
  exact ⟨n, hn, rfl, rfl, node⟩

/-- **The partitions of a card have consecutive indices**, in strictly ascending order of their
addresses, one for each node that carries the card's unique number. -/
theorem discover_areSideBySide {v : Inventory} (h : discover t config flags = .ok v)
    (hnodes : Node.cards t config.nodesRoot = .ok nodes) {card : UInt32} {uniqueId : UInt64}
    {home : BusAddress} (alone : StandsAlone t config flags nodes card uniqueId home) :
    ∃ first places, places.Pairwise (· < ·) ∧ (∀ p, p ∈ places ↔ Carries nodes uniqueId p) ∧
      1 < places.length ∧
      AreSideBySide v nodes (cardDirectory config.drmRoot card) first places := by
  obtain ⟨_, cs, hnodes', hcs, bound⟩ := bound_of_discover h
  cases hnodes.symm.trans hnodes'
  have ascending := Node.ascending_cards hnodes
  have kept : (addresses v.bound).Sublist (cs.map Candidate.address) :=
    bound ▸ addresses_bind_sublist 0
  have ordered := List.pairwise_map.mp ((pairwise_candidates hcs).sublist kept)
  obtain ⟨first, inside, listed⟩ :=
    exists_block (fun b : BoundDevice => (BusAddress.ofCard b.device.address).toNat) ordered
      home.toNat
  simp only [UInt64.toNat_inj] at inside listed
  have places : (addresses v.bound).filter (BusAddress.ofCard · = home) =
      addresses (v.bound.filter (BusAddress.ofCard ·.device.address = home)) := List.filter_map
  have strictly : (addresses (v.bound.filter
      (BusAddress.ofCard ·.device.address = home))).Pairwise (· < ·) := by
    rw [← places]
    exact (alone.pairwise_candidates ascending hcs).sublist (kept.filter _)
  have carrying : ∀ p, p ∈ addresses (v.bound.filter (BusAddress.ofCard ·.device.address = home)) ↔
      Carries nodes uniqueId p := by
    intro p
    rw [← places, bound]
    exact alone.mem_addresses_iff ascending hcs
  refine ⟨first, _, strictly, carrying, ?_, ?_, ?_⟩
  · rw [one_lt_length_iff (strictly.imp fun less => UInt64.ne_of_lt less)]
    obtain ⟨_, p, q, differ, carries, carries'⟩ := alone.split
    exact ⟨p, q, differ, (carrying p).mpr carries, (carrying q).mpr carries'⟩
  · intro i b hb
    have member := List.mem_of_getElem? hb
    rw [bound] at member
    rw [alone.directory_iff ascending hcs member, inside i b hb, addresses, List.length_map]
  · intro j p hp
    rw [addresses, List.getElem?_map, Option.map_eq_some_iff] at hp
    obtain ⟨b, hb, rfl⟩ := hp
    have there := listed j b hb
    obtain ⟨n, node⟩ := exists_node_of_getElem? (bound ▸ there)
    exact ⟨b, n, there, rfl, node⟩

/-! ## A split card beside another -/

/-- A node for a card at a location of the first domain, without a unique number. -/
def plainNode (gpuId location : Nat) : Tree :=
  .directory [("gpu_id", .file (Bytes.ofText (decimalText gpuId))),
    ("properties", .file (Bytes.ofText ("location_id " ++ decimalText location ++ "\ndomain 0\n" ++
      "hive_id 0\nsimd_arrays_per_engine 1\narray_count 1\ncu_per_simd_array 1\n")))]

/-- A card in two partitions, and a card of a greater number at a lesser address. -/
def neighbourSystem : Tree :=
  .directory [("drm", .directory [("card0", numberedCard "0000:03:00.0"),
      ("card1", .directory [("device", .link "0000:02:00.0"), ("0000:02:00.0", .directory [])])]),
    ("nodes", .directory [("1", sampleNode 21 0x300), ("2", sampleNode 22 0x10000300),
      ("3", plainNode 23 0x200)])]

/-- The card is the only one at the address of its partitions. -/
theorem standsAlone_neighbourSystem {nodes : Table BusAddress Node} (ascending : nodes.Ascending)
    (listed : partitionsOf nodes 7 = [0x300, 0x10000300]) :
    StandsAlone neighbourSystem sampleConfig ⟨1⟩ nodes 0 7 0x300 := by
  have carries_iff : ∀ p, Carries nodes 7 p ↔ p ∈ [0x300, 0x10000300] := fun p => by
    rw [← listed, mem_partitionsOf ascending]
  have cards : eligible neighbourSystem sampleConfig.drmRoot ⟨1⟩ = [0, 1] := by decide +kernel
  have number : Files.readHex neighbourSystem
      (((cardDirectory sampleConfig.drmRoot 0).child "device").child "unique_id") = .ok 7 :=
    Outcome.toOption_eq_some.mp (by decide +kernel)
  have numberless : (Files.readHex neighbourSystem
      (((cardDirectory sampleConfig.drmRoot 1).child "device").child "unique_id")).toOption =
        none := by
    decide +kernel
  have link : BusAddress.ofCardPath neighbourSystem (cardDirectory sampleConfig.drmRoot 1) =
      .ok 0x200 := Outcome.toOption_eq_some.mp (by decide +kernel)
  constructor
  case takesPart => exact mem_eligible.mp (by rw [cards]; decide)
  case split =>
    exact ⟨number, 0x300, 0x10000300, by decide, (carries_iff _).mpr (by decide),
      (carries_iff _).mpr (by decide)⟩
  case together =>
    intro p carries
    rcases List.mem_cons.mp ((carries_iff p).mp carries) with rfl | later
    · rfl
    · cases List.mem_singleton.mp later
      rfl
  case alone =>
    intro n takes other p contributed
    have listed := mem_eligible.mpr takes
    rw [cards] at listed
    have second : n = 1 := by simpa [other] using listed
    subst second
    rcases contributed with ⟨own, split, _⟩ | ⟨_, link'⟩
    · rw [split.1] at numberless
      cases numberless
    · cases link.symm.trans link'
      decide

/-- The device of the other card comes first, and the two partitions after it. -/
theorem areSideBySide_neighbourSystem :
    ∃ v nodes, discover neighbourSystem sampleConfig ⟨1⟩ = .ok v ∧
      Node.cards neighbourSystem sampleConfig.nodesRoot = .ok nodes ∧
      StandsAlone neighbourSystem sampleConfig ⟨1⟩ nodes 0 7 0x300 ∧
      addresses v.bound = [0x200, 0x300, 0x10000300] ∧
      ∃ first places, 1 < places.length ∧ (∀ p, p ∈ places ↔ Carries nodes 7 p) ∧
        AreSideBySide v nodes (cardDirectory sampleConfig.drmRoot 0) first places := by
  obtain ⟨listed, found⟩ :
      (Node.cards neighbourSystem sampleConfig.nodesRoot).toOption.map (partitionsOf · 7) =
          some [0x300, 0x10000300] ∧
        (discover neighbourSystem sampleConfig ⟨1⟩).toOption.map (addresses ·.bound) =
          some [0x200, 0x300, 0x10000300] := by
    decide +kernel
  obtain ⟨nodes, hnodes, listed⟩ := Outcome.exists_of_toOption_map listed
  obtain ⟨v, hv, devices⟩ := Outcome.exists_of_toOption_map found
  have alone := standsAlone_neighbourSystem (Node.ascending_cards hnodes) listed
  obtain ⟨first, places, _, carrying, several, beside⟩ := discover_areSideBySide hv hnodes alone
  exact ⟨v, nodes, hv, hnodes, alone, devices, first, places, several, carrying, beside⟩

end Inventory

end GpuManagement
