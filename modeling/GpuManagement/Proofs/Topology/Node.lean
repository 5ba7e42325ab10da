import GpuManagement.Proofs.Data.Outcome
import GpuManagement.Proofs.Data.Table
import GpuManagement.Topology.Node

/-!
# The table of cards

Every entry of the table of cards was read from the directory of its own node: the node tells from
which one (`Node.cardEntry_of_cards`). So an address has one node and a node one address
(`Node.index_inj_of_cards`), however often the listing names a node.
-/

namespace GpuManagement.Node

/-- A card carries the number of the directory it was read from. -/
theorem readCard_index {t : Tree} {nodesRoot : Path} {index : UInt32} {gpuId : UInt64}
    {properties : Table String UInt64} {n : Node}
    (h : readCard t nodesRoot index gpuId properties = .ok n) : n.index = index := by
  unfold readCard at h
  simp only at h
  cases hive : properties.get? "hive_id" with
  | none => rw [hive] at h; cases h
  | some _ =>
    rw [hive] at h
    cases links : Link.ofNode t nodesRoot index .host with
    | error _ => rw [links] at h; cases h
    | ok table =>
      rw [links] at h
      obtain ⟨_, _, h⟩ := Outcome.bind_eq_ok.mp h
      obtain ⟨_, _, h⟩ := Outcome.bind_eq_ok.mp h
      cases h
      rfl

/-- A node carries the number of the directory it was read from. -/
theorem read_index {t : Tree} {nodesRoot : Path} {index : UInt32} {n : Node}
    (h : read t nodesRoot index = .ok n) : n.index = index := by
  obtain ⟨properties, _, h⟩ := Outcome.bind_eq_ok.mp h
  obtain ⟨gpuId, _, h⟩ := Outcome.bind_eq_ok.mp h
  by_cases zero : gpuId = 0
  · rw [if_pos zero] at h
    cases h
    rfl
  · rw [if_neg zero] at h
    exact readCard_index h

/-- An entry for the table of cards is a node that was read, with the address that it has. -/
theorem read_of_cardEntry {t : Tree} {nodesRoot : Path} {index : UInt32} {a : BusAddress}
    {n : Node} (h : cardEntry t nodesRoot index = .ok (some (a, n))) :
    read t nodesRoot index = .ok n ∧ n.gpuId ≠ 0 ∧ n.address = .ok a := by
  unfold cardEntry at h
  by_cases supported : isSupported t nodesRoot index = true
  · rw [if_neg (by rw [supported]; exact Bool.false_ne_true)] at h
    obtain ⟨node, hr, h⟩ := Outcome.bind_eq_ok.mp h
    by_cases zero : node.gpuId = 0
    · rw [if_pos zero] at h
      cases h
    · rw [if_neg zero] at h
      cases ha : node.address with
      | error _ => rw [ha] at h; cases h
      | ok address =>
        rw [ha] at h
        cases h
        exact ⟨hr, zero, ha⟩
  · rw [if_pos (by rw [Bool.eq_false_iff.mpr supported]; rfl)] at h
    cases h

/-- What an entry for the table of cards says about its node. -/
theorem cardEntry_eq_some {t : Tree} {nodesRoot : Path} {index : UInt32} {a : BusAddress}
    {n : Node} (h : cardEntry t nodesRoot index = .ok (some (a, n))) :
    n.index = index ∧ n.gpuId ≠ 0 ∧ n.address = .ok a := by
  obtain ⟨hr, known, ha⟩ := read_of_cardEntry h
  exact ⟨read_index hr, known, ha⟩

variable {t : Tree} {nodesRoot : Path} {nodes : Table BusAddress Node}

/-- The table of cards is in the order of the addresses. -/
theorem ascending_cards (h : cards t nodesRoot = .ok nodes) : nodes.Ascending := by
  obtain ⟨entries, _, h⟩ := Outcome.bind_eq_ok.mp h
  cases h
  exact Table.ascending_ofEntries _

/-- Every entry of the table of cards was read from the directory of its node. -/
theorem cardEntry_of_cards (h : cards t nodesRoot = .ok nodes) {a : BusAddress} {n : Node}
    (found : nodes.get? a = some n) : cardEntry t nodesRoot n.index = .ok (some (a, n)) := by
  obtain ⟨entries, hm, h⟩ := Outcome.bind_eq_ok.mp h
  cases h
  obtain ⟨entry, he, rfl⟩ := List.mem_filterMap.mp (Table.mem_of_get?_ofEntries found)
  obtain ⟨listed, _, hread⟩ := Outcome.exists_of_mem_mapM hm _ he
  rwa [(cardEntry_eq_some hread).1]

/-- A node stands at one address of the table of cards only. -/
theorem index_inj_of_cards (h : cards t nodesRoot = .ok nodes) {a b : BusAddress} {n m : Node}
    (ha : nodes.get? a = some n) (hb : nodes.get? b = some m) (same : n.index = m.index) :
    a = b := by
  have ea := cardEntry_of_cards h ha
  rw [same, cardEntry_of_cards h hb] at ea
  cases ea
  rfl

end GpuManagement.Node
