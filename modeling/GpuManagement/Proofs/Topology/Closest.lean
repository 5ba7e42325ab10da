import GpuManagement.Proofs.Topology.Link
import GpuManagement.Topology.Node

/-!
# The processor closest to a card

A card scans its table of links for those that lead to processors and keeps the lightest, the first
of several that weigh the same. `IsFirstLightest` says so of any list of links, and one more link
keeps it (`IsFirstLightest.closer`). The table is in the order of the nodes, so of processors that
are equally close the card keeps the one with the least number.

What the scan does not see are links that the table does not hold. Of several links to one
processor only the one with the greatest number counts, and the card is as close to that processor
as this link says, even where another one is lighter (`lighter_link_shadowed`).
-/

namespace GpuManagement.Node

/-- The edge that a link makes. -/
def edgeOf (link : Link) : NumaEdge := ⟨link.target, link.weight, link.kind⟩

/-! ## The lightest of some links -/

/-- The edge is that of the first among the lightest links, if there are any. -/
def IsFirstLightest (links : List Link) : Option NumaEdge → Prop
  | none => links = []
  | some edge => ∃ before link after, links = before ++ link :: after ∧ edge = edgeOf link ∧
      (∀ other ∈ before, link.weight < other.weight) ∧ ∀ other ∈ after, link.weight ≤ other.weight

variable {links : List Link} {edge : Option NumaEdge}

theorem closer_some (edge : NumaEdge) (link : Link) :
    closer (some edge) link =
      if link.weight < edge.weight then some (edgeOf link) else some edge := rfl

/-- One more link is compared with the edge so far. -/
theorem IsFirstLightest.closer (h : IsFirstLightest links edge) (link : Link) :
    IsFirstLightest (links ++ [link]) (closer edge link) := by
  cases edge with
  | none =>
    obtain rfl : links = [] := h
    exact ⟨[], link, [], rfl, rfl, by simp, by simp⟩
  | some edge =>
    obtain ⟨before, first, after, rfl, rfl, heavier, atLeast⟩ := h
    rw [closer_some]
    by_cases lighter : link.weight < first.weight
    · rw [if_pos (show link.weight < (edgeOf first).weight from lighter)]
      refine ⟨before ++ first :: after, link, [], rfl, rfl, fun other h => ?_, by simp⟩
      rcases List.mem_append.mp h with hb | ha
      · exact UInt64.lt_trans lighter (heavier other hb)
      · rcases List.mem_cons.mp ha with rfl | ha
        · exact lighter
        · exact UInt64.lt_of_lt_of_le lighter (atLeast other ha)
    · rw [if_neg (show ¬ link.weight < (edgeOf first).weight from lighter)]
      refine ⟨before, first, after ++ [link], by simp, rfl, heavier, fun other h => ?_⟩
      rcases List.mem_append.mp h with ha | hl
      · exact atLeast other ha
      · rw [List.mem_singleton.mp hl]
        exact UInt64.not_lt.mp lighter

/-- A scan that goes on over more links. -/
theorem IsFirstLightest.foldl_closer (h : IsFirstLightest links edge) (more : List Link) :
    IsFirstLightest (links ++ more) (more.foldl Node.closer edge) := by
  induction more generalizing links edge with
  | nil => rwa [List.append_nil]
  | cons link more ih =>
    have step := ih (h.closer link)
    rwa [List.append_assoc] at step

theorem isFirstLightest_foldl_closer (links : List Link) :
    IsFirstLightest links (links.foldl closer none) := by
  have start : IsFirstLightest [] none := rfl
  exact start.foldl_closer links

theorem IsFirstLightest.isSome_iff (h : IsFirstLightest links edge) :
    edge.isSome ↔ ∃ link, link ∈ links := by
  cases edge with
  | none =>
    obtain rfl : links = [] := h
    simp
  | some edge =>
    obtain ⟨before, link, after, rfl, _⟩ := h
    exact ⟨fun _ => ⟨link, by simp⟩, fun _ => rfl⟩

/-- Among links in the order of their ends, the first of the lightest ends before the others. -/
theorem IsFirstLightest.exists_least {edge : NumaEdge} (h : IsFirstLightest links (some edge))
    (order : links.Pairwise fun a b => a.target.toNat < b.target.toNat) :
    ∃ link ∈ links, edge = edgeOf link ∧ ∀ other ∈ links, link.weight ≤ other.weight ∧
      (other.weight = link.weight → link.target ≤ other.target) := by
  obtain ⟨before, link, after, rfl, rfl, heavier, atLeast⟩ := h
  refine ⟨link, by simp, rfl, fun other there => ?_⟩
  rcases List.mem_append.mp there with hb | ha
  · have lighter := heavier other hb
    refine ⟨UInt64.le_of_lt lighter, fun same => ?_⟩
    rw [same] at lighter
    exact absurd lighter (UInt64.lt_irrefl _)
  · rcases List.mem_cons.mp ha with rfl | ha
    · exact ⟨UInt64.le_refl _, fun _ => UInt32.le_refl _⟩
    · have later := List.rel_of_pairwise_cons (List.pairwise_append.mp order).2.1 ha
      exact ⟨atLeast other ha, fun _ => UInt32.le_iff_toNat_le.mpr (Nat.le_of_lt later)⟩

/-! ## The links of a card -/

variable {t : Tree} {nodesRoot : Path} {index : UInt32} {n : Node}

/-- A card has classified the links of its table, and knows the lightest one to a processor. -/
theorem exists_of_read (h : read t nodesRoot index = .ok n) (card : n.gpuId ≠ 0) :
    ∃ table links, Link.ofNode t nodesRoot index .host = .ok table ∧
      classifyLinks t nodesRoot table = .ok links ∧
      n.numa = (linksWhere id links).foldl closer none := by
  obtain ⟨properties, _, h⟩ := Outcome.bind_eq_ok.mp h
  obtain ⟨gpuId, _, h⟩ := Outcome.bind_eq_ok.mp h
  by_cases zero : gpuId = 0
  · rw [if_pos zero] at h
    cases h
    exact absurd zero card
  · rw [if_neg zero] at h
    unfold readCard at h
    simp only at h
    cases hive : properties.get? "hive_id" with
    | none =>
      rw [hive] at h
      cases h
    | some _ =>
      rw [hive] at h
      cases links : Link.ofNode t nodesRoot index .host with
      | error _ =>
        rw [links] at h
        cases h
      | ok table =>
        rw [links] at h
        obtain ⟨classified, hc, h⟩ := Outcome.bind_eq_ok.mp h
        obtain ⟨_, _, h⟩ := Outcome.bind_eq_ok.mp h
        cases h
        exact ⟨table, classified, rfl, hc, rfl⟩

/-- The link leads from a card to a processor, and counts. -/
structure IsProcessorLink (t : Tree) (nodesRoot : Path) (index : UInt32) (link : Link) : Prop where
  isLatest : Link.IsLatest t nodesRoot index .host link
  processor : readGpuId t nodesRoot link.target = .ok 0

variable {table : Table UInt32 Link} {classified : List (Link × Bool)} {link : Link}

theorem mem_linksWhere_id : link ∈ linksWhere id classified ↔ (link, true) ∈ classified := by
  simp [linksWhere]

/-- The links of a table that lead to processors. -/
theorem mem_linksWhere_classifyLinks (made : Link.ofNode t nodesRoot index .host = .ok table)
    (h : classifyLinks t nodesRoot table = .ok classified) :
    link ∈ linksWhere id classified ↔ IsProcessorLink t nodesRoot index link := by
  have ascending := Link.ascending_ofNode made
  rw [mem_linksWhere_id]
  constructor
  · intro hl
    obtain ⟨⟨target, _⟩, listed, step⟩ := Outcome.exists_of_mem_mapM h _ hl
    obtain ⟨id, hid, e⟩ := Outcome.bind_eq_ok.mp step
    obtain ⟨rfl, zero⟩ := Prod.mk.inj (Except.ok.inj e)
    obtain ⟨latest, rfl⟩ := (Link.get?_ofNode made).mp ((Table.mem_iff_get? ascending).mp listed)
    exact ⟨latest, by rw [hid, beq_iff_eq.mp zero]⟩
  · rintro ⟨latest, processor⟩
    have listed := (Table.mem_iff_get? ascending).mpr ((Link.get?_ofNode made).mpr ⟨latest, rfl⟩)
    obtain ⟨result, there, step⟩ := Outcome.exists_mem_of_mapM h _ listed
    rw [processor] at step
    cases step
    exact there

/-- The links that lead to processors are in the order of the processors. -/
theorem ascending_linksWhere (made : Link.ofNode t nodesRoot index .host = .ok table)
    (h : classifyLinks t nodesRoot table = .ok classified) :
    (linksWhere id classified).Pairwise fun a b => a.target.toNat < b.target.toNat := by
  have ordered : classified.Pairwise fun a b => a.1.target.toNat < b.1.target.toNat := by
    have keys : table.Pairwise fun a b => a.2.target.toNat < b.2.target.toNat := by
      refine List.Pairwise.imp_of_mem ?_ (Link.ascending_ofNode made).entries
      intro a b ha hb before
      have target : ∀ entry ∈ table, entry.2.target = entry.1 := fun entry hm =>
        (Link.isLatest_of_get? made
          ((Table.mem_iff_get? (Link.ascending_ofNode made)).mp hm)).2
      rw [target a ha, target b hb]
      exact of_decide_eq_true before
    refine Outcome.pairwise_of_mapM h keys ?_
    intro a b first second before ha hb
    obtain ⟨_, _, ea⟩ := Outcome.bind_eq_ok.mp ha
    obtain ⟨_, _, eb⟩ := Outcome.bind_eq_ok.mp hb
    cases ea
    cases eb
    exact before
  exact List.pairwise_map.mpr (ordered.filter _)

/-! ## The result -/

/-- A card is placed by its lightest link to a processor. -/
structure IsClosest (t : Tree) (nodesRoot : Path) (index : UInt32) (numa : Option NumaEdge) :
    Prop where
  /-- Every numbered directory of links was read. -/
  readable : ∀ entry ∈ Files.numberedEntries t
      ((Link.nodeDirectory nodesRoot index).child LinkDirectory.host.name),
    ∃ link, Link.read t nodesRoot index entry.1 .host = .ok link
  isSome_iff : numa.isSome ↔ ∃ number link,
    Link.read t nodesRoot index number .host = .ok link ∧
      readGpuId t nodesRoot link.target = .ok 0
  /-- The edge is that of a link that counts, and no link that counts is lighter; of those that
  weigh the same it leads to the least processor. -/
  lightest : ∀ edge, numa = some edge → ∃ link, IsProcessorLink t nodesRoot index link ∧
    edge = ⟨link.target, link.weight, link.kind⟩ ∧
    ∀ other, IsProcessorLink t nodesRoot index other → link.weight ≤ other.weight ∧
      (other.weight = link.weight → link.target ≤ other.target)

/-- **The closest processor**: every card keeps its lightest link to a processor. -/
theorem isClosest_of_read (h : read t nodesRoot index = .ok n) (card : n.gpuId ≠ 0) :
    IsClosest t nodesRoot index n.numa := by
  obtain ⟨table, classified, made, hc, numa⟩ := exists_of_read h card
  have scan := isFirstLightest_foldl_closer (linksWhere id classified)
  rw [← numa] at scan
  refine ⟨Link.exists_read_of_ofNode made, scan.isSome_iff.trans ?_, fun edge he => ?_⟩
  · constructor
    · rintro ⟨link, hl⟩
      have leads := (mem_linksWhere_classifyLinks made hc).mp hl
      exact ⟨link.number, link, leads.isLatest.isRead, leads.processor⟩
    · -- The link itself may not count, but one that does leads to the same processor.
      rintro ⟨number, link, hl, processor⟩
      obtain ⟨latest, found⟩ := (Link.isRead_of_read hl).exists_get? made
      obtain ⟨counts, target⟩ := Link.isLatest_of_get? made found
      exact ⟨latest,
        (mem_linksWhere_classifyLinks made hc).mpr ⟨counts, by rw [target, processor]⟩⟩
  · rw [he] at scan
    obtain ⟨link, hl, rfl, least⟩ := scan.exists_least (ascending_linksWhere made hc)
    exact ⟨link, (mem_linksWhere_classifyLinks made hc).mp hl, rfl, fun other ho =>
      least other ((mem_linksWhere_classifyLinks made hc).mpr ho)⟩

/-! ## Links that do not count -/

/-- The directory of a link. -/
def sampleLink (target weight : Nat) : Tree :=
  .directory [("properties", .file (Bytes.ofText
    ("type 2\nnode_from 1\nnode_to " ++ decimalText target ++ "\nweight " ++ decimalText weight ++
      "\nmin_bandwidth 0\nmax_bandwidth 0\n")))]

/-- A processor, and a card with two links to it of which the one that does not count is lighter. -/
def shadowedTree : Tree :=
  .directory [("nodes", .directory [
    ("0", .directory [("gpu_id", .file (Bytes.ofText "0\n"))]),
    ("1", .directory [("gpu_id", .file (Bytes.ofText "21\n")),
      ("properties", .file (Bytes.ofText
        "hive_id 0\nsimd_arrays_per_engine 1\narray_count 1\ncu_per_simd_array 1\n")),
      ("io_links", .directory [("0", sampleLink 0 10), ("1", sampleLink 0 20)])])])]

theorem numa_shadowedTree : (read shadowedTree (.root ["nodes"]) 1).toOption.map
    (fun n => (n.gpuId, n.numa)) = some (21, some ⟨0, 20, .pciExpress⟩) := by decide +kernel

theorem isClosest_shadowedTree : ∃ n, read shadowedTree (.root ["nodes"]) 1 = .ok n ∧
    n.gpuId ≠ 0 ∧ IsClosest shadowedTree (.root ["nodes"]) 1 n.numa := by
  obtain ⟨n, hn, e⟩ := Outcome.exists_of_toOption_map numa_shadowedTree
  have card : n.gpuId ≠ 0 := by
    rw [(Prod.mk.inj e).1]
    decide
  exact ⟨n, hn, card, isClosest_of_read hn card⟩

/-- The closest processor is not always as close as the lightest link to it. -/
theorem lighter_link_shadowed : ∃ n edge link,
    read shadowedTree (.root ["nodes"]) 1 = .ok n ∧ n.gpuId ≠ 0 ∧ n.numa = some edge ∧
      Link.read shadowedTree (.root ["nodes"]) 1 0 .host = .ok link ∧
      readGpuId shadowedTree (.root ["nodes"]) link.target = .ok 0 ∧
      link.weight < edge.weight := by
  have lighter : (Link.read shadowedTree (.root ["nodes"]) 1 0 .host).toOption.map
      (fun link => (link.target, link.weight)) = some (0, 10) := by decide +kernel
  have processor : (readGpuId shadowedTree (.root ["nodes"]) 0).toOption = some 0 := by
    decide +kernel
  obtain ⟨n, hn, e⟩ := Outcome.exists_of_toOption_map numa_shadowedTree
  obtain ⟨link, hl, el⟩ := Outcome.exists_of_toOption_map lighter
  obtain ⟨card, numa⟩ := Prod.mk.inj e
  obtain ⟨target, weight⟩ := Prod.mk.inj el
  refine ⟨n, _, link, hn, ?_, numa, hl, ?_, ?_⟩
  · rw [card]
    decide
  · rw [target]
    exact Outcome.toOption_eq_some.mp processor
  · rw [weight]
    decide

end GpuManagement.Node
