import GpuManagement.Proofs.Files.Follow
import GpuManagement.Proofs.Text.Numeral
import GpuManagement.Proofs.Topology.Node
import GpuManagement.Topology.Inventory

/-!
# Devices and nodes stay together

Discovery joins two listings, and cards or nodes without a partner drop out on the way. What is
left is described by `IsPairing`: the devices and the nodes are two columns of one table, in the
order of the cards' addresses, and the addresses are those that cards contribute and nodes have.

The laws of `bind` carry this. It goes through the candidates once and gives each node away at most
once, so every law is an induction on the candidates in which the table of nodes shrinks.
-/

namespace GpuManagement

namespace Inventory

/-! ## Cards that take part -/

/-- The number that follows a fixed beginning is read back from the name. -/
theorem numberAfter?_decimal (start : List Char) (n : UInt32) :
    Files.numberAfter? start (start ++ Text.decimal n.toNat) = some n := by
  have rest : start.isPrefixOf? (start ++ Text.decimal n.toNat) = some (Text.decimal n.toNat) := by
    induction start with
    | nil => rfl
    | cons c start ih =>
      show (if (c == c) = true then start.isPrefixOf? (start ++ Text.decimal n.toNat) else none) = _
      rw [if_pos BEq.rfl, ih]
  unfold Files.numberAfter?
  rw [rest]
  simp only [Text.isNumber_decimal, if_true]
  exact Text.readU32?_decimal n

/-- The card with a number takes part: it has a directory and is of the vendor, or every vendor's
cards are wanted. -/
def TakesPart (t : Tree) (root : Path) (flags : InitFlags) (n : UInt32) : Prop :=
  t.isDirectory (cardDirectory root n) = true ∧
    (flags.allGpus = true ∨
      ∃ word, Files.readWord t ((cardDirectory root n).child "device" |>.child "vendor") = .ok word ∧
        Files.hexNumber? word = some 0x1002)

theorem isOfVendor_iff {t : Tree} {card : Path} :
    isOfVendor t card = true ↔
      ∃ word, Files.readWord t ((card.child "device").child "vendor") = .ok word ∧
        Files.hexNumber? word = some 0x1002 := by
  have file : (card.child "device").join Attribute.vendorId.file =
      (card.child "device").child "vendor" := Path.join_of_pieces_one _ (by decide) (by decide)
  unfold isOfVendor
  rw [file]
  cases Files.readWord t ((card.child "device").child "vendor") with
  | error _ => exact ⟨fun e => (by cases e), fun ⟨_, e, _⟩ => (by cases e)⟩
  | ok word =>
    refine ⟨fun e => ⟨word, rfl, beq_iff_eq.mp e⟩, ?_⟩
    rintro ⟨_, e, h⟩
    cases e
    exact beq_iff_eq.mpr h

/-- Every number with a directory of its own is found, whatever else is listed. -/
theorem mem_cardNumbers {t : Tree} {root : Path} {n : UInt32} :
    n ∈ cardNumbers t root ↔ t.isDirectory (cardDirectory root n) = true := by
  unfold cardNumbers
  rw [Table.mem_keys_ofEntries]
  simp only [List.mem_map, List.mem_filter, List.mem_filterMap, Prod.mk.injEq]
  constructor
  · rintro ⟨_, m, ⟨_, directory⟩, rfl, _⟩
    exact directory
  · intro directory
    refine ⟨(), n, ⟨⟨"card" ++ decimalText n.toNat, ?_, ?_⟩, directory⟩, rfl, trivial⟩
    · have found : ∃ node, t.find (cardDirectory root n) = .ok node := by
        unfold Tree.isDirectory at directory
        cases h : t.find (cardDirectory root n) with
        | error _ => rw [h] at directory; cases directory
        | ok node => exact ⟨node, rfl⟩
      obtain ⟨node, hn⟩ := found
      refine Files.mem_listNames_of_find (Path.isName_of_mem (c := 'c') ?_ (by decide)) hn
      rw [String.toList_append]
      exact List.mem_append_left _ (by decide)
    · have name : ("card" ++ decimalText n.toNat).toList = "card".toList ++ Text.decimal n.toNat :=
        String.toList_append.trans (congrArg ("card".toList ++ ·) String.toList_ofList)
      rw [name]
      exact numberAfter?_decimal _ n

theorem mem_eligible {t : Tree} {root : Path} {flags : InitFlags} {n : UInt32} :
    n ∈ eligible t root flags ↔ TakesPart t root flags n := by
  unfold eligible TakesPart
  rw [List.mem_filter, mem_cardNumbers, Bool.or_eq_true, isOfVendor_iff]

/-! ## What a card contributes -/

/-- The node at an address carries a unique number. -/
def Carries (nodes : Table BusAddress Node) (uniqueId : UInt64) (a : BusAddress) : Prop :=
  ∃ n, nodes.get? a = some n ∧ n.properties.get? "unique_id" = some uniqueId

/-- The card has a unique number that nodes at more than one address carry. -/
def IsSplit (t : Tree) (nodes : Table BusAddress Node) (card : Path) (uniqueId : UInt64) : Prop :=
  Files.readHex t ((card.child "device").child "unique_id") = .ok uniqueId ∧
    ∃ a b, a ≠ b ∧ Carries nodes uniqueId a ∧ Carries nodes uniqueId b

/-- The card contributes an address: one of its partitions when it is split, else the one that its
link names. -/
def Contributes (t : Tree) (nodes : Table BusAddress Node) (card : Path) (a : BusAddress) : Prop :=
  (∃ uniqueId, IsSplit t nodes card uniqueId ∧ Carries nodes uniqueId a) ∨
    (∀ uniqueId, ¬ IsSplit t nodes card uniqueId) ∧ BusAddress.ofCardPath t card = .ok a

variable {t : Tree} {nodes : Table BusAddress Node}

theorem mem_partitionsOf (ascending : nodes.Ascending) {uniqueId : UInt64} {a : BusAddress} :
    a ∈ partitionsOf nodes uniqueId ↔ Carries nodes uniqueId a := by
  unfold partitionsOf Carries
  simp only [List.mem_map, List.mem_filter]
  constructor
  · rintro ⟨⟨a, n⟩, ⟨hm, carried⟩, rfl⟩
    exact ⟨n, (Table.mem_iff_get? ascending).mp hm, beq_iff_eq.mp carried⟩
  · rintro ⟨n, hg, carried⟩
    exact ⟨(a, n), ⟨(Table.mem_iff_get? ascending).mpr hg, beq_iff_eq.mpr carried⟩, rfl⟩

/-- A list without repetition has more than one element when two of them differ. -/
theorem one_lt_length_iff {α : Type} {xs : List α} (distinct : xs.Nodup) :
    1 < xs.length ↔ ∃ a b, a ≠ b ∧ a ∈ xs ∧ b ∈ xs := by
  match xs with
  | [] => exact ⟨fun h => absurd h (Nat.not_lt_zero _), fun ⟨_, _, _, h, _⟩ => (by cases h)⟩
  | [x] =>
    refine ⟨fun h => absurd h (Nat.lt_irrefl _), ?_⟩
    rintro ⟨a, b, hne, ha, hb⟩
    rw [List.mem_singleton] at ha hb
    exact absurd (ha.trans hb.symm) hne
  | x :: y :: rest =>
    refine ⟨fun _ => ⟨x, y, ?_, List.mem_cons_self, ?_⟩, fun _ => Nat.succ_lt_succ (Nat.succ_pos _)⟩
    · rintro rfl
      exact (List.nodup_cons.mp distinct).1 List.mem_cons_self
    · exact List.mem_cons_of_mem _ List.mem_cons_self

/-- The partitions of a card are the nodes that carry its number, when it is split. -/
theorem mem_partitions (t : Tree) (ascending : nodes.Ascending) (card : Path) (a : BusAddress) :
    a ∈ partitions t nodes card ↔
      ∃ uniqueId, IsSplit t nodes card uniqueId ∧ Carries nodes uniqueId a := by
  have file : (card.child "device").join Attribute.uniqueId.file =
      (card.child "device").child "unique_id" := Path.join_of_pieces_one _ (by decide) (by decide)
  unfold partitions IsSplit
  rw [file]
  cases Files.readHex t ((card.child "device").child "unique_id") with
  | error _ => exact ⟨fun h => (by cases h), fun ⟨_, ⟨e, _⟩, _⟩ => (by cases e)⟩
  | ok uniqueId =>
    have distinct : (partitionsOf nodes uniqueId).Nodup :=
      (List.filter_sublist.map Prod.fst).nodup ascending.nodup
    have several := one_lt_length_iff distinct
    simp only [mem_partitionsOf ascending] at several
    simp only
    by_cases h : 1 < (partitionsOf nodes uniqueId).length
    · rw [if_pos h, mem_partitionsOf ascending]
      refine ⟨fun carried => ⟨uniqueId, ⟨rfl, several.mp h⟩, carried⟩, ?_⟩
      rintro ⟨_, ⟨e, _⟩, carried⟩
      cases e
      exact carried
    · rw [if_neg h]
      refine ⟨fun m => (by cases m), ?_⟩
      rintro ⟨_, ⟨e, split⟩, _⟩
      cases e
      exact absurd (several.mpr split) h

/-- The addresses of the candidates of a card are what it contributes. -/
theorem mem_candidatesOf (ascending : nodes.Ascending) {root : Path} {n : UInt32}
    {cs : List Candidate} (h : candidatesOf t nodes root n = .ok cs) {a : BusAddress} :
    (∃ c ∈ cs, c.address = a) ↔ Contributes t nodes (cardDirectory root n) a := by
  unfold candidatesOf at h
  simp only at h
  have mem := mem_partitions t ascending (cardDirectory root n)
  unfold Contributes
  rw [← mem a]
  cases hp : partitions t nodes (cardDirectory root n) with
  | nil =>
    rw [hp] at h mem
    obtain ⟨address, hl, h⟩ := Outcome.bind_eq_ok.mp h
    cases h
    have whole : ∀ uniqueId, ¬ IsSplit t nodes (cardDirectory root n) uniqueId := by
      rintro uniqueId ⟨read, a, b, hne, ha, hb⟩
      cases (mem a).mpr ⟨uniqueId, ⟨read, a, b, hne, ha, hb⟩, ha⟩
    rw [hl]
    constructor
    · rintro ⟨c, hc, rfl⟩
      cases List.mem_singleton.mp hc
      exact .inr ⟨whole, rfl⟩
    · rintro (m | ⟨_, e⟩)
      · cases m
      · cases e
        exact ⟨_, List.mem_singleton.mpr rfl, rfl⟩
  | cons first rest =>
    rw [hp] at h mem
    cases h
    obtain ⟨uniqueId, split, _⟩ := (mem first).mp List.mem_cons_self
    constructor
    · rintro ⟨c, hc, rfl⟩
      obtain ⟨address, hm, rfl⟩ := List.mem_map.mp hc
      exact .inl hm
    · rintro (m | ⟨whole, _⟩)
      · exact ⟨_, List.mem_map.mpr ⟨a, m, rfl⟩, rfl⟩
      · exact absurd split (whole uniqueId)

theorem card_of_mem_candidatesOf {root : Path} {n : UInt32} {cs : List Candidate}
    (h : candidatesOf t nodes root n = .ok cs) {c : Candidate} (hc : c ∈ cs) :
    c.cardNumber = n ∧ c.directory = cardDirectory root n := by
  unfold candidatesOf at h
  simp only at h
  cases hp : partitions t nodes (cardDirectory root n) with
  | nil =>
    rw [hp] at h
    obtain ⟨address, _, h⟩ := Outcome.bind_eq_ok.mp h
    cases h
    cases List.mem_singleton.mp hc
    exact ⟨rfl, rfl⟩
  | cons first rest =>
    rw [hp] at h
    cases h
    obtain ⟨address, _, rfl⟩ := List.mem_map.mp hc
    exact ⟨rfl, rfl⟩

variable {config : Config} {flags : InitFlags} {cs : List Candidate}

/-- A candidate is in the directory of a card that takes part, at an address that the card
contributes. -/
theorem card_of_mem_candidates (ascending : nodes.Ascending)
    (h : candidates t config flags nodes = .ok cs) {c : Candidate} (hc : c ∈ cs) :
    TakesPart t config.drmRoot flags c.cardNumber ∧
      c.directory = cardDirectory config.drmRoot c.cardNumber ∧
      Contributes t nodes c.directory c.address := by
  obtain ⟨found, hm, h⟩ := Outcome.bind_eq_ok.mp h
  cases h
  obtain ⟨list, hl, hc⟩ := List.mem_flatten.mp ((sortBy_perm _ _).mem_iff.mp hc)
  obtain ⟨n, hn, hlist⟩ := Outcome.exists_of_mem_mapM hm list hl
  obtain ⟨number, directory⟩ := card_of_mem_candidatesOf hlist hc
  rw [number, directory]
  exact ⟨mem_eligible.mp hn, rfl, (mem_candidatesOf ascending hlist).mp ⟨c, hc, rfl⟩⟩

/-- What a card that takes part contributes is the address of a candidate of the card. -/
theorem exists_mem_candidates (ascending : nodes.Ascending)
    (h : candidates t config flags nodes = .ok cs) {n : UInt32}
    (takes : TakesPart t config.drmRoot flags n) {a : BusAddress}
    (contributed : Contributes t nodes (cardDirectory config.drmRoot n) a) :
    ∃ c ∈ cs, c.cardNumber = n ∧ c.address = a := by
  obtain ⟨found, hm, h⟩ := Outcome.bind_eq_ok.mp h
  cases h
  obtain ⟨list, hl, hlist⟩ := Outcome.exists_mem_of_mapM hm n (mem_eligible.mpr takes)
  obtain ⟨c, hc, there⟩ := (mem_candidatesOf ascending hlist).mpr contributed
  exact ⟨c, (sortBy_perm _ _).mem_iff.mpr (List.mem_flatten.mpr ⟨list, hl, hc⟩),
    (card_of_mem_candidatesOf hlist hc).1, there⟩

/-- The addresses of all candidates are what the cards that take part contribute. -/
theorem mem_candidates (ascending : nodes.Ascending)
    (h : candidates t config flags nodes = .ok cs) {a : BusAddress} :
    a ∈ cs.map Candidate.address ↔
      ∃ n, TakesPart t config.drmRoot flags n ∧
        Contributes t nodes (cardDirectory config.drmRoot n) a := by
  rw [List.mem_map]
  constructor
  · rintro ⟨c, hc, rfl⟩
    obtain ⟨takes, directory, contributed⟩ := card_of_mem_candidates ascending h hc
    exact ⟨c.cardNumber, takes, directory ▸ contributed⟩
  · rintro ⟨n, takes, contributed⟩
    obtain ⟨c, hc, _, there⟩ := exists_mem_candidates ascending h takes contributed
    exact ⟨c, hc, there⟩

/-- The candidates come in the order of the cards' addresses. -/
theorem pairwise_candidates (h : candidates t config flags nodes = .ok cs) :
    (cs.map Candidate.address).Pairwise fun a b =>
      (BusAddress.ofCard a).toNat ≤ (BusAddress.ofCard b).toNat := by
  obtain ⟨found, _, h⟩ := Outcome.bind_eq_ok.mp h
  cases h
  exact List.pairwise_map.mpr
    (sortBy_pairwise (fun c : Candidate => (BusAddress.ofCard c.address).toNat) found.flatten)

/-! ## Giving the nodes away -/

/-- A candidate whose address has a node takes the node. -/
theorem bind_cons_some {next : Nat} {c : Candidate} {n : Node} (h : nodes.get? c.address = some n) :
    bind t config next nodes (c :: cs) =
      { device := Device.ofCard t config c.directory c.cardNumber c.address n
        node := { n with deviceIndex := some (UInt32.ofNat next) } } ::
        bind t config (next + 1) (nodes.erase c.address) cs := by
  rw [bind, h]

/-- A candidate whose address has no node is dropped. -/
theorem bind_cons_none {next : Nat} {c : Candidate} (h : nodes.get? c.address = none) :
    bind t config next nodes (c :: cs) = bind t config next nodes cs := by
  rw [bind, h]

/-- A bound device is a candidate with the node at its address, the first candidate there. -/
theorem mem_bind {next : Nat} {b : BoundDevice} (h : b ∈ bind t config next nodes cs) :
    ∃ c, cs.find? (fun other => other.address = c.address) = some c ∧
      ∃ (n : Node) (index : Option UInt32), nodes.get? c.address = some n ∧
        b.device = Device.ofCard t config c.directory c.cardNumber c.address n ∧
        b.node = { n with deviceIndex := index } := by
  induction cs generalizing next nodes with
  | nil => cases h
  | cons c cs ih =>
    cases hn : nodes.get? c.address with
    | none =>
      rw [bind_cons_none hn] at h
      obtain ⟨c', first, n', index, hg, e⟩ := ih h
      have other : c.address ≠ c'.address := by
        intro same
        rw [← same, hn] at hg
        cases hg
      exact ⟨c', by rwa [List.find?_cons_of_neg (by simpa using other)], n', index, hg, e⟩
    | some n =>
      rw [bind_cons_some hn] at h
      rcases List.mem_cons.mp h with rfl | h
      · exact ⟨c, List.find?_cons_of_pos (by simp), n, _, hn, rfl, rfl⟩
      · obtain ⟨c', first, n', index, hg, e⟩ := ih h
        rw [Table.get?_erase] at hg
        split at hg
        · cases hg
        · rename_i other
          exact ⟨c', by rwa [List.find?_cons_of_neg (by simpa using other)], n', index, hg, e⟩

/-- A node is numbered by the place of its device. -/
theorem bind_deviceIndex {next i : Nat} {b : BoundDevice}
    (h : (bind t config next nodes cs)[i]? = some b) :
    b.node.deviceIndex = some (UInt32.ofNat (next + i)) := by
  induction cs generalizing next nodes i with
  | nil => cases h
  | cons c cs ih =>
    cases hn : nodes.get? c.address with
    | none =>
      rw [bind_cons_none hn] at h
      exact ih h
    | some n =>
      rw [bind_cons_some hn] at h
      cases i with
      | zero => cases h; rfl
      | succ i =>
        rw [List.getElem?_cons_succ] at h
        rw [ih h, Nat.add_right_comm, Nat.add_assoc]

/-- The addresses of a list of bound devices. -/
def addresses (bs : List BoundDevice) : List BusAddress := bs.map fun b => b.device.address

/-- The devices keep the order of the candidates. -/
theorem addresses_bind_sublist (next : Nat) :
    (addresses (bind t config next nodes cs)).Sublist (cs.map Candidate.address) := by
  induction cs generalizing next nodes with
  | nil => exact List.Sublist.refl _
  | cons c cs ih =>
    cases hn : nodes.get? c.address with
    | none =>
      rw [bind_cons_none hn]
      exact (ih next).cons _
    | some n =>
      rw [bind_cons_some hn]
      exact (ih (next + 1)).cons_cons _

/-- An address is bound when a candidate and a node have it. -/
theorem mem_addresses_bind {next : Nat} {a : BusAddress} :
    a ∈ addresses (bind t config next nodes cs) ↔
      a ∈ cs.map Candidate.address ∧ (nodes.get? a).isSome = true := by
  induction cs generalizing next nodes with
  | nil => exact ⟨fun h => (by cases h), fun h => (by cases h.1)⟩
  | cons c cs ih =>
    rw [List.map_cons, List.mem_cons]
    cases hn : nodes.get? c.address with
    | none =>
      rw [bind_cons_none hn, ih]
      constructor
      · rintro ⟨m, there⟩
        exact ⟨.inr m, there⟩
      · rintro ⟨rfl | m, there⟩
        · rw [hn] at there
          cases there
        · exact ⟨m, there⟩
    | some n =>
      rw [bind_cons_some hn]
      show a ∈ c.address :: addresses _ ↔ _
      rw [List.mem_cons, ih, Table.get?_erase]
      by_cases here : c.address = a
      · simp only [here, true_or, true_and, true_iff]
        rw [← here, hn]
        rfl
      · simp only [if_neg here, Ne.symm here, false_or]

theorem nodup_addresses_bind (next : Nat) : (addresses (bind t config next nodes cs)).Nodup := by
  induction cs generalizing next nodes with
  | nil => exact List.nodup_nil
  | cons c cs ih =>
    cases hn : nodes.get? c.address with
    | none =>
      rw [bind_cons_none hn]
      exact ih next
    | some n =>
      rw [bind_cons_some hn]
      refine List.nodup_cons.mpr ⟨fun again => ?_, ih (next + 1)⟩
      have gone : ((nodes.erase c.address).get? c.address).isSome = true :=
        (mem_addresses_bind.mp again).2
      rw [Table.get?_erase, if_pos rfl] at gone
      cases gone

/-! ## Devices by the driver's numbers -/

/-- Searching a numbered list from its end finds the one item with a value, where it stands. -/
theorem find?_zipIdx_reverse {α β : Type} [DecidableEq β] {f : α → β} {xs : List α}
    (distinct : (xs.map f).Nodup) {i : Nat} {x : α} (h : xs[i]? = some x) :
    xs.zipIdx.reverse.find? (fun row => f row.1 = f x) = some (x, i) := by
  have there : (x, i) ∈ xs.zipIdx.reverse :=
    List.mem_reverse.mpr (List.mem_zipIdx_iff_getElem?.mpr h)
  cases hf : xs.zipIdx.reverse.find? (fun row => f row.1 = f x) with
  | none =>
    have missing := List.find?_eq_none.mp hf (x, i) there
    exact absurd (decide_eq_true rfl) missing
  | some row =>
    obtain ⟨y, j⟩ := row
    have hy : f y = f x := by simpa using List.find?_some hf
    have hj : xs[j]? = some y :=
      List.mem_zipIdx_iff_getElem?.mp (List.mem_reverse.mp (List.mem_of_find?_eq_some hf))
    have within : j < (xs.map f).length := by
      rw [List.length_map]
      exact (List.getElem?_eq_some_iff.mp hj).1
    have place : j = i := by
      refine (List.getElem?_inj within distinct).mp ?_
      rw [List.getElem?_map, List.getElem?_map, hj, h, Option.map_some, Option.map_some, hy]
    subst place
    rw [h] at hj
    cases hj
    rfl

/-- A list of different numbers of 32 bits is no longer than there are such numbers. -/
theorem length_le_of_nodup {xs : List UInt32} (distinct : xs.Nodup) : xs.length ≤ UInt32.size := by
  have numbers : (xs.map UInt32.toNat).Nodup :=
    List.Pairwise.map _ (fun _ _ hne e => hne (UInt32.toNat_inj.mp e)) distinct
  have within : xs.map UInt32.toNat ⊆ List.range UInt32.size := by
    intro n hn
    obtain ⟨x, _, rfl⟩ := List.mem_map.mp hn
    exact List.mem_range.mpr x.toNat_lt_size
  have below := numbers.length_le_of_subset within
  rwa [List.length_map, List.length_range] at below

/-! ## The pairing -/

def boundDevices (v : Inventory) : List Device := v.bound.map BoundDevice.device

/-- The nodes of the devices in order. -/
def boundNodes (v : Inventory) : List Node := v.bound.map BoundDevice.node

/-- The devices and the nodes of an inventory belong together, and are those that the cards of the
system and its table of nodes have in common. -/
structure IsPairing (t : Tree) (config : Config) (flags : InitFlags)
    (table : Table BusAddress Node) (v : Inventory) : Prop where
  length_eq : v.boundDevices.length = v.boundNodes.length
  aligned : ∀ (i : Nat) (d : Device) (n : Node), v.boundDevices[i]? = some d → v.boundNodes[i]? = some n →
    (∃ index, n.deviceIndex = some index ∧ index.toNat = i) ∧ d.gpuId = n.gpuId ∧ d.gpuId ≠ 0 ∧
      d.nodeIndex = n.index ∧ n.address = .ok d.address
  addresses_nodup : (v.boundDevices.map Device.address).Nodup
  indices_nodup : (v.boundNodes.map Node.index).Nodup
  ordered : (v.boundDevices.map Device.address).Pairwise fun a b =>
    (BusAddress.ofCard a).toNat ≤ (BusAddress.ofCard b).toNat
  bound_iff : ∀ a, a ∈ v.boundDevices.map Device.address ↔
    (∃ card, TakesPart t config.drmRoot flags card ∧
      Contributes t table (cardDirectory config.drmRoot card) a) ∧ a ∈ table.keys
  found : (v.boundDevices.map Device.gpuId).Nodup →
    (∀ (i : Nat) (d : Device), v.boundDevices[i]? = some d →
      ∃ index, v.deviceOfCard? d.gpuId = some index ∧ index.toNat = i) ∧
    ∀ id, id ∉ v.boundDevices.map Device.gpuId → v.deviceOfCard? id = none

theorem addresses_bound (v : Inventory) : v.boundDevices.map Device.address = addresses v.bound :=
  List.map_map

/-- The device and the node in one place are the two halves of a bound device. -/
theorem bound_of_getElem? {v : Inventory} {i : Nat} {d : Device} {n : Node}
    (hd : v.boundDevices[i]? = some d) (hn : v.boundNodes[i]? = some n) : v.bound[i]? = some ⟨d, n⟩ := by
  unfold boundDevices at hd
  unfold boundNodes at hn
  rw [List.getElem?_map, Option.map_eq_some_iff] at hd hn
  obtain ⟨b, hb, rfl⟩ := hd
  obtain ⟨b', hb', rfl⟩ := hn
  rw [hb] at hb'
  cases hb'
  exact hb

theorem nodup_indices_bind (h : Node.cards t config.nodesRoot = .ok nodes) (next : Nat) :
    ((bind t config next nodes cs).map fun b => b.node.index).Nodup := by
  have distinct : (addresses (bind t config next nodes cs)).Nodup := nodup_addresses_bind next
  unfold addresses at distinct
  rw [List.Nodup, List.pairwise_map] at distinct ⊢
  refine distinct.imp_of_mem ?_
  intro b b' hb hb' hne same
  obtain ⟨c, _, n, _, hg, hd, hn⟩ := mem_bind hb
  obtain ⟨c', _, n', _, hg', hd', hn'⟩ := mem_bind hb'
  rw [hn, hn'] at same
  rw [hd, hd'] at hne
  exact hne (Node.index_inj_of_cards h hg hg' same)

/-- A device has the numbers of its node. -/
theorem bind_aligned (h : Node.cards t config.nodesRoot = .ok nodes) {next : Nat} {b : BoundDevice}
    (hb : b ∈ bind t config next nodes cs) :
    b.device.gpuId = b.node.gpuId ∧ b.device.gpuId ≠ 0 ∧ b.device.nodeIndex = b.node.index ∧
      b.node.address = .ok b.device.address := by
  obtain ⟨c, _, n, index, hg, hd, hn⟩ := mem_bind hb
  obtain ⟨_, known, there⟩ := Node.cardEntry_eq_some (Node.cardEntry_of_cards h hg)
  rw [hd, hn]
  exact ⟨rfl, known, rfl, there⟩

/-- The lookup by the driver's numbers, when these are different. -/
theorem deviceOfCard?_spec {v : Inventory} (small : v.bound.length ≤ UInt32.size)
    (distinct : (v.boundDevices.map Device.gpuId).Nodup) :
    (∀ (i : Nat) (d : Device), v.boundDevices[i]? = some d →
      ∃ index, v.deviceOfCard? d.gpuId = some index ∧ index.toNat = i) ∧
    ∀ id, id ∉ v.boundDevices.map Device.gpuId → v.deviceOfCard? id = none := by
  unfold deviceOfCard?
  constructor
  · intro i d hd
    unfold boundDevices at hd distinct
    rw [List.getElem?_map, Option.map_eq_some_iff] at hd
    obtain ⟨b, hb, rfl⟩ := hd
    rw [List.map_map] at distinct
    have found := find?_zipIdx_reverse distinct hb
    have below := (List.getElem?_eq_some_iff.mp hb).1
    refine ⟨UInt32.ofNat i, ?_, UInt32.toNat_ofNat_of_lt' (by omega)⟩
    rw [Option.map_eq_some_iff]
    exact ⟨(b, i), found, rfl⟩
  · intro id missing
    rw [Option.map_eq_none_iff, List.find?_eq_none]
    rintro ⟨b, i⟩ hm hid
    refine missing (List.mem_map.mpr ⟨b.device, List.mem_map.mpr ⟨b, ?_, rfl⟩, of_decide_eq_true hid⟩)
    exact List.mem_of_getElem? (List.mem_zipIdx_iff_getElem?.mp (List.mem_reverse.mp hm))

/-- The devices of a system are the candidates bound to the driver's nodes. -/
theorem bound_of_discover {v : Inventory} (h : discover t config flags = .ok v) :
    ∃ nodes cs, Node.cards t config.nodesRoot = .ok nodes ∧
      candidates t config flags nodes = .ok cs ∧ v.bound = bind t config 0 nodes cs := by
  obtain ⟨nodes, hnodes, h⟩ := Outcome.bind_eq_ok.mp h
  obtain ⟨cs, hcs, h⟩ := Outcome.bind_eq_ok.mp h
  refine ⟨nodes, cs, hnodes, hcs, ?_⟩
  cases hl : Link.all t config.nodesRoot .host with
  | error _ => rw [hl] at h; cases h
  | ok links =>
    rw [hl] at h
    cases h
    rfl

/-- There are no more devices than numbers for them. -/
theorem length_bound_le {v : Inventory} (h : discover t config flags = .ok v) :
    v.bound.length ≤ UInt32.size := by
  obtain ⟨nodes, cs, hcards, _, e⟩ := bound_of_discover h
  have indices : ((bind t config 0 nodes cs).map fun b => b.node.index).Nodup :=
    nodup_indices_bind hcards 0
  have below := length_le_of_nodup indices
  rwa [List.length_map, ← e] at below

/-- The node of a device was read from the tree, and has the device's number. -/
theorem exists_read_of_bound {v : Inventory} (h : discover t config flags = .ok v)
    {b : BoundDevice} (hb : b ∈ v.bound) :
    ∃ (n : Node) (index : Option UInt32), Node.read t config.nodesRoot n.index = .ok n ∧
      n.gpuId = b.device.gpuId ∧ b.node = { n with deviceIndex := index } := by
  obtain ⟨nodes, cs, hcards, _, e⟩ := bound_of_discover h
  rw [e] at hb
  obtain ⟨c, _, n, index, hg, hd, hn⟩ := mem_bind hb
  refine ⟨n, index, (Node.read_of_cardEntry (Node.cardEntry_of_cards hcards hg)).1, ?_, hn⟩
  rw [hd]
  rfl

/-- The lookup by the driver's numbers leads to a device with the number. -/
theorem exists_bound_of_deviceOfCard? {v : Inventory} (small : v.bound.length ≤ UInt32.size)
    {id : UInt64} {dv : UInt32} (h : v.deviceOfCard? id = some dv) :
    ∃ b, v.bound[dv.toNat]? = some b ∧ b.device.gpuId = id := by
  obtain ⟨⟨b, i⟩, found, rfl⟩ := Option.map_eq_some_iff.mp h
  have hb : v.bound[i]? = some b :=
    List.mem_zipIdx_iff_getElem?.mp (List.mem_reverse.mp (List.mem_of_find?_eq_some found))
  have below := (List.getElem?_eq_some_iff.mp hb).1
  refine ⟨b, ?_, by simpa using List.find?_some found⟩
  rwa [UInt32.toNat_ofNat_of_lt' (Nat.lt_of_lt_of_le below small)]

/-- **Discovery pairs the cards of the system with the driver's nodes.** Whatever drops out, each
device stands beside its own node, and nothing that has both a card and a node is missing. -/
theorem discover_isPairing {v : Inventory} (h : discover t config flags = .ok v) :
    ∃ table, Node.cards t config.nodesRoot = .ok table ∧ IsPairing t config flags table v := by
  obtain ⟨table, hcards, h⟩ := Outcome.bind_eq_ok.mp h
  obtain ⟨found, hfound, h⟩ := Outcome.bind_eq_ok.mp h
  refine ⟨table, hcards, ?_⟩
  cases hl : Link.all t config.nodesRoot .host with
  | error _ => rw [hl] at h; cases h
  | ok links =>
    rw [hl] at h
    cases h
    have indices : ((bind t config 0 table found).map fun b => b.node.index).Nodup :=
      nodup_indices_bind hcards 0
    have small : (bind t config 0 table found).length ≤ UInt32.size := by
      have := length_le_of_nodup indices
      rwa [List.length_map] at this
    refine ⟨?_, ?_, ?_, ?_, ?_, ?_, deviceOfCard?_spec small⟩
    · show (List.map _ _).length = (List.map _ _).length
      rw [List.length_map, List.length_map]
    · intro i d n hd hn
      have hb := bound_of_getElem? hd hn
      have below := (List.getElem?_eq_some_iff.mp hb).1
      refine ⟨⟨UInt32.ofNat i, ?_, UInt32.toNat_ofNat_of_lt' (Nat.lt_of_lt_of_le below small)⟩,
        bind_aligned hcards (List.mem_of_getElem? hb)⟩
      have index := bind_deviceIndex hb
      rwa [Nat.zero_add] at index
    · rw [addresses_bound]
      exact nodup_addresses_bind 0
    · show ((List.map _ _).map _).Nodup
      rw [List.map_map]
      exact indices
    · rw [addresses_bound]
      exact (pairwise_candidates hfound).sublist (addresses_bind_sublist 0)
    · intro a
      rw [addresses_bound, ← mem_candidates (Node.ascending_cards hcards) hfound,
        ← Table.get?_isSome_iff]
      exact mem_addresses_bind

/-! ## Systems with one card -/

def sampleConfig : Config :=
  { Config.standard with drmRoot := .root ["drm"], nodesRoot := .root ["nodes"] }

/-- A node for a card at a location of the first domain. -/
def sampleNode (gpuId location : Nat) : Tree :=
  .directory [("gpu_id", .file (Bytes.ofText (decimalText gpuId))),
    ("properties", .file (Bytes.ofText ("location_id " ++ decimalText location ++ "\ndomain 0\n" ++
      "unique_id 7\nhive_id 0\nsimd_arrays_per_engine 1\narray_count 1\ncu_per_simd_array 1\n")))]

/-- A system with a card that has attributes, and with nodes. -/
def sampleSystem (nodes attributes : List (String × Tree)) : Tree :=
  .directory [("drm", .directory [("card0", .directory [("device", .link "0000:03:00.0"),
      ("0000:03:00.0", .directory attributes)])]), ("nodes", .directory nodes)]

/-- A system with a card that has attributes, and with its node. -/
def cardSystem (attributes : List (String × Tree)) : Tree :=
  sampleSystem [("1", sampleNode 21 0x300)] attributes

/-- A system with a card whose unique number the nodes of two partitions carry. -/
def splitSystem : Tree :=
  sampleSystem [("1", sampleNode 21 0x300), ("2", sampleNode 22 0x10000300)]
    [("unique_id", .file (Bytes.ofText "7\n"))]

/-- A card in two partitions makes two devices. -/
theorem isPairing_splitSystem :
    ∃ v, discover splitSystem sampleConfig ⟨1⟩ = .ok v ∧
      v.boundDevices.map Device.gpuId = [21, 22] ∧
      ∃ table, Node.cards splitSystem sampleConfig.nodesRoot = .ok table ∧
        IsPairing splitSystem sampleConfig ⟨1⟩ table v := by
  have found : (discover splitSystem sampleConfig ⟨1⟩).toOption.map
      (fun v => v.boundDevices.map Device.gpuId) = some [21, 22] := by decide +kernel
  cases h : discover splitSystem sampleConfig ⟨1⟩ with
  | error _ =>
    rw [h] at found
    cases found
  | ok v =>
    rw [h] at found
    exact ⟨v, rfl, Option.some.inj found, discover_isPairing h⟩

end Inventory

end GpuManagement
