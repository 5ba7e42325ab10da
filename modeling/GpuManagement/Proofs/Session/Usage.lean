import GpuManagement.Proofs.Process
import GpuManagement.Proofs.Topology.Inventory
import GpuManagement.Session.Basic
import Mathlib.Algebra.Order.BigOperators.Group.Finset

/-!
# What a process uses, as a session tells it

A session tells what a process uses of all cards that it has queues on. The numbers are the totals
of the account that the driver's files describe, with the compute units of the nodes that the session
has bound to its devices (`boundUnits?`), and a process is not found exactly when it has no queues
(`isExact_processUsage`).

The share of the compute units is a percentage as long as the session has a device for every card
whose units are counted (`isPercentage_processUsage`). A card without a device adds its units in use
and no units to share, so that the share has no bound where the driver knows more cards than the
session does (`beyond_hundred_withoutDevice`).
-/

namespace GpuManagement.Session

open ProcessUsage

variable {s : Session} {t : Tree} {pid : UInt32} {u : ProcessUsage} {a : Account}

/-! ## Exact accounts -/

/-- The compute units of the node that is bound to the device of a card; none of a card without a
device. -/
def boundUnits? (s : Session) (card : UInt64) : Option UInt64 :=
  ((s.inventory.deviceOfCard? card).bind fun dv => s.inventory.bound[dv.toNat]?).map
    fun b => b.node.cuCount

theorem node_toOption (s : Session) (dv : UInt32) :
    (s.node dv).toOption = (s.inventory.bound[dv.toNat]?).map BoundDevice.node := by
  unfold node Inventory.node Inventory.boundAt
  cases s.inventory.bound[dv.toNat]? <;> rfl

/-- A session asks for the units of the bound node. -/
theorem computeUnits?_eq (s : Session) : s.computeUnits? = s.boundUnits? := by
  funext card
  unfold computeUnits? boundUnits?
  cases s.inventory.deviceOfCard? card with
  | none => rfl
  | some dv =>
    simp only [Option.bind_eq_bind, Option.bind_some, node_toOption]
    cases s.inventory.bound[dv.toNat]? <;> rfl

/-- The directory of a process is there with its queues. -/
theorem exists_of_queues {root : Path} (h : t.isDirectory (queues root pid) = true) :
    t.exists_ (root.childNumber pid.toNat) = true := by
  unfold Tree.isDirectory at h
  split at h
  · rename_i found
    obtain ⟨entries, hd, _⟩ := Tree.find_child (by decide) found
    unfold Tree.exists_
    rw [hd]
  · cases h

/-- The files of a process are well formed: every queue that can be read tells a card, and the
address space and each card have their numbers. -/
structure IsWellFormed (t : Tree) (root : Path) (pid : UInt32) : Prop where
  queues : ∀ name number word, Files.entryNumber? name = some number →
    Files.readWord t (queueFile root pid name) = .ok word →
    ∃ card, Text.readU64? 10 word = some card
  pasid : ∃ pasid : UInt32,
    HoldsNumber t ((root.childNumber pid.toNat).child "pasid") pasid.toUInt64
  cards : ∀ card, HasQueueOn t root pid card → ∃ vram sdma units,
    Tells t (root.childNumber pid.toNat) card vram sdma units

/-- The usage is what an account comes to, wherever 64 bits hold its sums. -/
structure IsReport (s : Session) (a : Account) (u : ProcessUsage) : Prop where
  vram : a.vramTotal < 2 ^ 64 → u.vram.toNat = a.vramTotal
  sdma : a.sdmaTotal < 2 ^ 64 → u.sdma.toNat = a.sdmaTotal
  occupancy : 100 * a.used < 2 ^ 64 → a.available s.boundUnits? < 2 ^ 64 →
    u.occupancy.toNat =
      min (if 0 < a.available s.boundUnits? then 100 * a.used / a.available s.boundUnits?
        else a.used) (2 ^ 32 - 1)

/-- What a session tells of a process is exact. -/
structure IsExact (s : Session) (t : Tree) (pid : UInt32) : Prop where
  notFound_iff : (s.processUsage t pid).FailsWith .notFound ↔
    t.isDirectory (queues s.config.processRoot pid) = false
  succeeds_iff : (∃ u, s.processUsage t pid = .ok u) ↔
    t.isDirectory (queues s.config.processRoot pid) = true ∧
      IsWellFormed t s.config.processRoot pid
  named : ∀ u, s.processUsage t pid = .ok u → u.pid = pid ∧
    HoldsNumber t ((s.config.processRoot.childNumber pid.toNat).child "pasid") u.pasid.toUInt64
  /-- The files describe an account, and the usage is what it comes to. -/
  described : ∀ u, s.processUsage t pid = .ok u →
    (∃ a : Account, a.Describes t s.config.processRoot pid) ∧
      ∀ a : Account, a.Describes t s.config.processRoot pid → IsReport s a u

/-- A session asks for the cards of a process first. -/
theorem exists_cards_of_processUsage (h : s.processUsage t pid = .ok u) :
    ∃ cs, cards t s.config.processRoot pid = .ok cs ∧
      ofProcess t s.config.processRoot pid cs s.computeUnits? = .ok u :=
  Outcome.bind_eq_ok.mp h

/-- The files describe the account of a usage that is told. -/
theorem describes_of_processUsage (h : s.processUsage t pid = .ok u) {cs : List UInt64}
    (listed : cards t s.config.processRoot pid = .ok cs) :
    (Account.ofFiles t (s.config.processRoot.childNumber pid.toNat) cs).Describes t
      s.config.processRoot pid := by
  obtain ⟨cs', hc, hu⟩ := exists_cards_of_processUsage h
  cases listed.symm.trans hc
  obtain ⟨_, tells, _⟩ := of_ofProcess hu
  exact describes_ofFiles listed fun card hm => ⟨_, _, _, tells card hm⟩

theorem totals_processUsage (h : s.processUsage t pid = .ok u)
    (account : a.Describes t s.config.processRoot pid) : a.Totals s.boundUnits? u := by
  obtain ⟨cs, hc, hu⟩ := exists_cards_of_processUsage h
  rw [computeUnits?_eq] at hu
  exact totals_of_ofProcess account hc hu

theorem isReport_of_totals (h : a.Totals s.boundUnits? u) : IsReport s a u := by
  refine ⟨fun fits => ?_, fun fits => ?_, fun fits fits' => ?_⟩
  · rw [h.vram, UInt64.toNat_ofNat_of_lt' fits]
  · rw [h.sdma, UInt64.toNat_ofNat_of_lt' fits]
  · rw [h.occupancy, toNat_share_ofNat fits fits']

/-- A process is not found when it has no queues, and only then. -/
theorem processUsage_notFound_iff : (s.processUsage t pid).FailsWith .notFound ↔
    t.isDirectory (queues s.config.processRoot pid) = false := by
  rw [← cards_notFound_iff]
  constructor
  · intro h
    rcases h.of_bind with h | ⟨cs, hc, h⟩
    · exact h
    · have there := (exists_cards_iff.mp ⟨cs, hc⟩).1
      exact absurd h (not_notFound_ofProcess (exists_of_queues there))
  · intro h
    exact h.bind _

/-- A session tells what a process uses when it has queues and its files are well formed. -/
theorem exists_processUsage_iff : (∃ u, s.processUsage t pid = .ok u) ↔
    t.isDirectory (queues s.config.processRoot pid) = true ∧
      IsWellFormed t s.config.processRoot pid := by
  constructor
  · rintro ⟨u, h⟩
    obtain ⟨cs, hc, hu⟩ := exists_cards_of_processUsage h
    obtain ⟨there, tells⟩ := exists_cards_iff.mp ⟨cs, hc⟩
    obtain ⟨pasid, each⟩ := (exists_ofProcess_iff (exists_of_queues there)).mp ⟨u, hu⟩
    exact ⟨there, tells, pasid, fun card hq => each card (((mem_cards hc).2 card).mpr hq)⟩
  · rintro ⟨there, formed⟩
    obtain ⟨cs, hc⟩ := exists_cards_iff.mpr ⟨there, formed.queues⟩
    obtain ⟨u, hu⟩ := (exists_ofProcess_iff (exists_of_queues there)).mpr
      ⟨formed.pasid, fun card hm => formed.cards card (((mem_cards hc).2 card).mp hm)⟩
    exact ⟨u, Outcome.bind_eq_ok.mpr ⟨cs, hc, hu⟩⟩

/-- **Accounts are exact**: every process with queues and well-formed files is told in the sums over
its cards, and one without queues is not found. -/
theorem isExact_processUsage (s : Session) (t : Tree) (pid : UInt32) : IsExact s t pid := by
  refine ⟨processUsage_notFound_iff, exists_processUsage_iff, fun u h => ?_, fun u h => ?_⟩
  · obtain ⟨cs, hc, hu⟩ := exists_cards_of_processUsage h
    obtain ⟨pasid, _, same, _⟩ := of_ofProcess hu
    exact ⟨same, pasid⟩
  · obtain ⟨cs, hc, _⟩ := exists_cards_of_processUsage h
    refine ⟨⟨_, describes_of_processUsage h hc⟩, fun a account => ?_⟩
    exact isReport_of_totals (totals_processUsage h account)

/-- A session works with the configuration that it was opened with. -/
theorem config_of_build {config : Config} {user : UInt32} {flags : InitFlags}
    (h : build t config user flags = .ok s) : s.config = config := by
  unfold build at h
  split at h
  · cases h
    rfl
  all_goals cases h

/-! ## Shares -/

/-- The compute units that a session knows of a card are those of the card's node. -/
theorem exists_read_of_deviceOfCard {shown : Tree} {config : Config} {flags : InitFlags}
    (found : Inventory.discover shown config flags = .ok s.inventory) {card : UInt64}
    (has : (s.inventory.deviceOfCard? card).isSome) :
    ∃ n : Node, Node.read shown config.nodesRoot n.index = .ok n ∧ n.gpuId = card ∧
      s.boundUnits? card = some n.cuCount := by
  obtain ⟨dv, hdv⟩ := Option.isSome_iff_exists.mp has
  obtain ⟨b, hb, rfl⟩ :=
    Inventory.exists_bound_of_deviceOfCard? (Inventory.length_bound_le found) hdv
  obtain ⟨n, index, hn, same, node⟩ :=
    Inventory.exists_read_of_bound found (List.mem_of_getElem? hb)
  refine ⟨n, hn, same, ?_⟩
  unfold boundUnits?
  rw [hdv, Option.bind_some, hb, Option.map_some, node]

/-- The share is a percentage where the session knows the units of the cards that are counted. -/
structure IsPercentage (s : Session) (a : Account) (u : ProcessUsage) : Prop where
  /-- No more units are in use of a card than the session knows it to have. -/
  of_known : a.available s.boundUnits? < 2 ^ 64 →
    (∀ card ∈ a.cards, ∀ used, a.units card = some used →
      used ≤ (s.boundUnits? card).getD 0) → u.occupancy ≤ 100
  /-- No more units are in use of a card than the node of the card has, and the session has a device
  for the card. -/
  of_discovered : ∀ shown config flags,
    Inventory.discover shown config flags = .ok s.inventory →
    a.available s.boundUnits? < 2 ^ 64 →
    (∀ card ∈ a.cards, ∀ used, a.units card = some used →
      (s.inventory.deviceOfCard? card).isSome ∧ ∀ index n,
        Node.read shown config.nodesRoot index = .ok n → n.gpuId = card → used ≤ n.cuCount) →
    u.occupancy ≤ 100

/-- Units in use that the session knows the cards to have are no more than there are. -/
theorem used_le_available (known : ∀ card ∈ a.cards, ∀ used, a.units card = some used →
    used ≤ (s.boundUnits? card).getD 0) : a.used ≤ a.available s.boundUnits? := by
  refine Finset.sum_le_sum fun card hc => ?_
  obtain ⟨hm, counted⟩ := Finset.mem_filter.mp hc
  obtain ⟨used, hu⟩ := Option.isSome_iff_exists.mp counted
  rw [hu]
  exact UInt64.le_iff_toNat_le.mp (known card hm used hu)

/-- **Shares are percentages** as long as the session has a device for every counted card. -/
theorem isPercentage_processUsage (h : s.processUsage t pid = .ok u)
    (account : a.Describes t s.config.processRoot pid) : IsPercentage s a u := by
  have of_known : a.available s.boundUnits? < 2 ^ 64 →
      (∀ card ∈ a.cards, ∀ used, a.units card = some used →
        used ≤ (s.boundUnits? card).getD 0) → u.occupancy ≤ 100 := by
    intro fits known
    rw [(totals_processUsage h account).occupancy]
    exact share_le_hundred fits (used_le_available known)
  refine ⟨of_known, fun shown config flags found fits within => ?_⟩
  refine of_known fits fun card hc used hu => ?_
  obtain ⟨has, bound⟩ := within card hc used hu
  obtain ⟨n, hn, same, units⟩ := exists_read_of_deviceOfCard found has
  rw [units]
  exact bound n.index n hn same

/-! ## A system with two cards -/

/-- The files of a process that has a queue on each of some cards, and uses one unit of each. -/
def sampleProcess (cards : List Nat) : Tree :=
  .directory ([("pasid", .file (Bytes.ofText "1\n")),
      ("queues", .directory (cards.map fun card => (decimalText card,
        .directory [("gpuid", .file (Bytes.ofText (decimalText card)))])))] ++
    cards.flatMap fun card => [("vram_" ++ decimalText card, .file (Bytes.ofText "0")),
      ("sdma_" ++ decimalText card, .file (Bytes.ofText "0")),
      ("stats_" ++ decimalText card, .directory [("cu_occupancy", .file (Bytes.ofText "1"))])])

def usageConfig : Config := { Inventory.sampleConfig with processRoot := .root ["proc"] }

/-- A system whose driver has two cards with one compute unit each, and a process that uses both.
The machine shows one card, which is split in two where its attributes say so. -/
def usageSystem (attributes : List (String × Tree)) : Tree :=
  (Inventory.sampleSystem [("1", Inventory.sampleNode 21 0x300),
    ("2", Inventory.sampleNode 22 0x10000300)] attributes).insert ["proc"]
    (.directory [("100", sampleProcess [21, 22])])

/-- The attributes of a card that is split. -/
def splitAttributes : List (String × Tree) := [("unique_id", .file (Bytes.ofText "7\n"))]

/-- What the files of the process say. -/
def usageAccount (attributes : List (String × Tree)) : Account :=
  Account.ofFiles (usageSystem attributes) (usageConfig.processRoot.childNumber 100) [21, 22]

/-- What a session on the system tells of the process, with the units that it knows. -/
def usageOf (attributes : List (String × Tree)) :
    Option (UInt32 × List (Option UInt64) × Nat) := do
  let s ← (build (usageSystem attributes) usageConfig 0 ⟨1⟩).toOption
  let u ← (s.processUsage (usageSystem attributes) 100).toOption
  some (u.occupancy, [21, 22].map s.boundUnits?,
    (usageAccount attributes).available s.boundUnits?)

/-- What `usageOf` says is told by a session on the system. -/
theorem exists_of_usageOf {attributes : List (String × Tree)} {occupancy : UInt32}
    {units : List (Option UInt64)} {available : Nat}
    (h : usageOf attributes = some (occupancy, units, available))
    (listed : (cards (usageSystem attributes) usageConfig.processRoot 100).toOption =
      some [21, 22]) :
    ∃ s u, build (usageSystem attributes) usageConfig 0 ⟨1⟩ = .ok s ∧ s.config = usageConfig ∧
      s.processUsage (usageSystem attributes) 100 = .ok u ∧
      (usageAccount attributes).Describes (usageSystem attributes) s.config.processRoot 100 ∧
      u.occupancy = occupancy ∧ [21, 22].map s.boundUnits? = units ∧
      (usageAccount attributes).available s.boundUnits? = available := by
  unfold usageOf at h
  obtain ⟨s, hs, h⟩ := Option.bind_eq_some_iff.mp h
  obtain ⟨u, hu, h⟩ := Option.bind_eq_some_iff.mp h
  cases h
  have built := Outcome.toOption_eq_some.mp hs
  have told := Outcome.toOption_eq_some.mp hu
  have config := config_of_build built
  rw [← config] at listed
  have account := describes_of_processUsage told (Outcome.toOption_eq_some.mp listed)
  refine ⟨s, u, built, config, told, ?_, rfl, rfl, rfl⟩
  unfold usageAccount
  rwa [← config]

theorem mem_usageAccount {attributes : List (String × Tree)} {card : UInt64} :
    card ∈ (usageAccount attributes).cards ↔ card = 21 ∨ card = 22 := by
  show card ∈ [21, 22].toFinset ↔ _
  simp

theorem usageOf_splitAttributes :
    usageOf splitAttributes = some (100, [some 1, some 1], 2) := by decide +kernel

theorem cards_splitAttributes :
    (cards (usageSystem splitAttributes) usageConfig.processRoot 100).toOption =
      some [21, 22] := by decide +kernel

/-- A process that uses one unit of each of two cards, whose nodes have one unit each, uses all that
there are. -/
theorem isExact_usageSystem :
    ∃ s u, build (usageSystem splitAttributes) usageConfig 0 ⟨1⟩ = .ok s ∧
      s.processUsage (usageSystem splitAttributes) 100 = .ok u ∧
      IsExact s (usageSystem splitAttributes) 100 ∧
      [21, 22].map s.boundUnits? = [some 1, some 1] ∧
      (usageAccount splitAttributes).used = 2 ∧ u.occupancy.toNat = 100 := by
  have used : (usageAccount splitAttributes).used = 2 := by decide +kernel
  obtain ⟨s, u, built, _, told, account, _, units, available⟩ :=
    exists_of_usageOf usageOf_splitAttributes cards_splitAttributes
  have accurate := isExact_processUsage s (usageSystem splitAttributes) 100
  have report := (accurate.described u told).2 _ account
  refine ⟨s, u, built, told, accurate, units, used, ?_⟩
  rw [report.occupancy (by rw [used]; decide) (by rw [available]; decide), used, available]
  rfl

/-- A card in two partitions has a device for each of the driver's cards. -/
theorem isPercentage_usageSystem :
    ∃ s u, build (usageSystem splitAttributes) usageConfig 0 ⟨1⟩ = .ok s ∧
      s.processUsage (usageSystem splitAttributes) 100 = .ok u ∧
      (usageAccount splitAttributes).Describes (usageSystem splitAttributes)
        s.config.processRoot 100 ∧
      IsPercentage s (usageAccount splitAttributes) u ∧ u.occupancy ≤ 100 := by
  have used : [21, 22].map (usageAccount splitAttributes).units = [some 1, some 1] := by
    decide +kernel
  obtain ⟨s, u, built, _, told, account, _, units, available⟩ :=
    exists_of_usageOf usageOf_splitAttributes cards_splitAttributes
  have percentage := isPercentage_processUsage told account
  refine ⟨s, u, built, told, account, percentage, percentage.of_known ?_ fun card hc n hn => ?_⟩
  · rw [available]
    decide
  · simp only [List.map_cons, List.map_nil, List.cons.injEq] at used units
    rcases mem_usageAccount.mp hc with rfl | rfl
    · rw [used.1] at hn
      cases hn
      rw [units.1]
      decide
    · rw [used.2.1] at hn
      cases hn
      rw [units.2.1]
      decide

/-- A card that no device stands for adds to the units in use only: two cards with all their units
in use come to twice of what there is. -/
theorem beyond_hundred_withoutDevice :
    ∃ s u, build (usageSystem []) usageConfig 0 ⟨1⟩ = .ok s ∧
      s.processUsage (usageSystem []) 100 = .ok u ∧
      (usageAccount []).Describes (usageSystem []) s.config.processRoot 100 ∧
      (∀ card ∈ (usageAccount []).cards, ∀ used, (usageAccount []).units card = some used →
        ∃ index n, Node.read (usageSystem []) s.config.nodesRoot index = .ok n ∧
          n.gpuId = card ∧ used ≤ n.cuCount) ∧
      (usageAccount []).used = 2 ∧ (usageAccount []).available s.boundUnits? = 1 ∧
      u.occupancy = 200 := by
  have tells : usageOf [] = some (200, [some 1, none], 1) := by decide +kernel
  have listed : (cards (usageSystem []) usageConfig.processRoot 100).toOption =
      some [21, 22] := by decide +kernel
  have used : [21, 22].map (usageAccount []).units = [some 1, some 1] := by decide +kernel
  have nodes : [1, 2].map (fun index => (Node.read (usageSystem []) usageConfig.nodesRoot
      index).toOption.map fun n => (n.gpuId, n.cuCount)) = [some (21, 1), some (22, 1)] := by
    decide +kernel
  obtain ⟨s, u, built, config, told, account, occupancy, _, available⟩ :=
    exists_of_usageOf tells listed
  refine ⟨s, u, built, told, account, fun card hc n hn => ?_, by decide +kernel, available,
    occupancy⟩
  simp only [List.map_cons, List.map_nil, List.cons.injEq] at used nodes
  rw [config]
  rcases mem_usageAccount.mp hc with rfl | rfl
  · obtain ⟨node, read, e⟩ := Outcome.exists_of_toOption_map nodes.1
    obtain ⟨same, units⟩ := Prod.mk.inj e
    rw [used.1] at hn
    cases hn
    exact ⟨1, node, read, same, by rw [units]; decide⟩
  · obtain ⟨node, read, e⟩ := Outcome.exists_of_toOption_map nodes.2.1
    obtain ⟨same, units⟩ := Prod.mk.inj e
    rw [used.2.1] at hn
    cases hn
    exact ⟨2, node, read, same, by rw [units]; decide⟩

end GpuManagement.Session
