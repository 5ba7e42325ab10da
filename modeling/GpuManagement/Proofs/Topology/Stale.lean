import GpuManagement.Proofs.Topology.Consulted
import GpuManagement.Proofs.Topology.Link

/-!
# Stale nodes

A node without properties is stale and gives no device. Its directory is not closed for that:
discovery walks the links of every node that is listed, and a card asks each node that it links to
for its number, to learn whether it is a processor. Two trees that differ only inside the
directories of stale nodes are told apart by these two, and by links that lead into the directories
from outside (`Inventory.stale_nodes_are_seen`), and by nothing else:
`Inventory.isUndisturbed_of_stale` says of all other trees that they have the same devices and
nodes.
-/

namespace GpuManagement

open GpuManagement.Tree (AgreeOn)

/-- The tree with the directories at some paths emptied. -/
def Tree.emptied (t : Tree) (paths : List Path) : Tree :=
  paths.foldl
    (fun t p =>
      match t.resolve .use p with
      | .ok location =>
        t.modify (fun | .directory _ => .directory [] | other => other) location
      | .error _ => t) t

namespace Inventory

variable {t u : Tree} {config : Config} {flags : InitFlags} {stale : List UInt32}

/-! ## What the two trees have to do with each other -/

def staleDirectories (config : Config) (stale : List UInt32) : List Path :=
  stale.map (Link.nodeDirectory config.nodesRoot)

/-- The trees differ only inside the directories of some nodes, which are stale in both. -/
structure DifferInside (config : Config) (stale : List UInt32) (t u : Tree) : Prop where
  left : ∀ n ∈ stale, Node.isSupported t config.nodesRoot n = false
  right : ∀ n ∈ stale, Node.isSupported u config.nodesRoot n = false
  outside : t.emptied (staleDirectories config stale) = u.emptied (staleDirectories config stale)

/-- The numbers that the nodes are listed with. -/
def listedNodes (t : Tree) (nodesRoot : Path) : List UInt32 :=
  (Files.numberedEntries t nodesRoot).map Prod.fst

/-- What discovery looks at for a node, the stale ones among the nodes that it links to apart. -/
def consultedFor (t : Tree) (config : Config) (stale : List UInt32) (n : UInt32) : List Path :=
  Node.consulted t config.nodesRoot n ++
    ((Node.linkTargets t config.nodesRoot n).filter fun m => m ∉ stale).map fun m =>
      (Link.nodeDirectory config.nodesRoot m).child "gpu_id"

/-- What discovery looks at outside the directories of stale nodes. -/
def consulted (t : Tree) (config : Config) (stale : List UInt32) : List Path :=
  consultedCards t config ++ config.nodesRoot ::
    ((listedNodes t config.nodesRoot).filter fun n => n ∉ stale).flatMap
      (consultedFor t config stale)

/-- What discovery looks at outside the directories of stale nodes does not lead into them: it is
the same when they are empty. -/
structure IsApart (config : Config) (stale : List UInt32) (t u : Tree) : Prop where
  used : AgreeOn .use u (u.emptied (staleDirectories config stale)) (consulted t config stale)
  inspected : AgreeOn .inspect u (u.emptied (staleDirectories config stale)) (busLinks t config)

/-- A card has a link through the host to the node. -/
def IsLinked (t : Tree) (config : Config) (m : UInt32) : Prop :=
  ∃ n gpuId, n ∈ listedNodes t config.nodesRoot ∧ Node.isSupported t config.nodesRoot n = true ∧
    Node.readGpuId t config.nodesRoot n = .ok gpuId ∧ gpuId ≠ 0 ∧
    m ∈ Node.linkTargets t config.nodesRoot n

/-- The trees differ only inside the directories of stale nodes, nothing else that discovery looks
at leads there, and the stale nodes that cards link to are of the same kinds in both. -/
structure DifferInStale (config : Config) (stale : List UInt32) (t u : Tree) : Prop
    extends DifferInside config stale t u where
  apart : ∀ v, v = t ∨ v = u → IsApart config stale t v
  kinds : ∀ m ∈ stale, IsLinked t config m → Node.SameKind t u config.nodesRoot m

/-- The links of the stale nodes that are listed can be read. -/
def StaleLinksRead (config : Config) (stale : List UInt32) (t : Tree) : Prop :=
  ∀ n ∈ stale, n ∈ listedNodes t config.nodesRoot →
    ∃ table, Link.ofNode t config.nodesRoot n .host = .ok table

/-- The trees have the same devices and nodes, where they can be had; and they can be had of both or
of none, as far as the links of stale nodes can be read. -/
structure IsUndisturbed (config : Config) (flags : InitFlags) (stale : List UInt32) (t u : Tree) :
    Prop where
  bound : ∀ v w, discover t config flags = .ok v → discover u config flags = .ok w →
    v.bound = w.bound
  succeeds : StaleLinksRead config stale t → StaleLinksRead config stale u →
    ((∃ v, discover t config flags = .ok v) ↔ ∃ w, discover u config flags = .ok w)
  fails : ∀ v, v = t ∨ v = u → ¬ StaleLinksRead config stale v →
    ∃ e, discover v config flags = .error e

/-! ## Devices and nodes -/

/-- The devices and nodes that discovery finds, before it looks at the links of the system. -/
def devices (t : Tree) (config : Config) (flags : InitFlags) : Outcome (List BoundDevice) := do
  let nodes ← Node.cards t config.nodesRoot
  let found ← candidates t config flags nodes
  .ok (bind t config 0 nodes found)

theorem discover_eq_ok_iff {v : Inventory} :
    discover t config flags = .ok v ↔ devices t config flags = .ok v.bound ∧
      Link.all t config.nodesRoot .host = .ok v.links := by
  unfold discover devices
  constructor
  · intro h
    obtain ⟨nodes, hn, h⟩ := Outcome.bind_eq_ok.mp h
    obtain ⟨found, hf, h⟩ := Outcome.bind_eq_ok.mp h
    split at h
    · rename_i links hl
      cases h
      exact ⟨Outcome.bind_eq_ok.mpr ⟨nodes, hn, Outcome.bind_eq_ok.mpr ⟨found, hf, rfl⟩⟩, hl⟩
    · cases h
  · rintro ⟨h, hl⟩
    obtain ⟨nodes, hn, h⟩ := Outcome.bind_eq_ok.mp h
    obtain ⟨found, hf, h⟩ := Outcome.bind_eq_ok.mp h
    refine Outcome.bind_eq_ok.mpr ⟨nodes, hn, Outcome.bind_eq_ok.mpr ⟨found, hf, ?_⟩⟩
    rw [hl, Except.ok.inj h]

/-- The links of the system can be read when those of each node that is listed can. -/
theorem exists_all_iff :
    (∃ links, Link.all t config.nodesRoot .host = .ok links) ↔
      ∀ n ∈ listedNodes t config.nodesRoot,
        ∃ table, Link.ofNode t config.nodesRoot n .host = .ok table := by
  unfold listedNodes
  rw [List.forall_mem_map, Link.exists_all_iff]

/-- Discovery comes to an end when the devices are found and the links of the system can be read. -/
theorem exists_discover_iff :
    (∃ v, discover t config flags = .ok v) ↔ (∃ bound, devices t config flags = .ok bound) ∧
      ∀ n ∈ listedNodes t config.nodesRoot,
        ∃ table, Link.ofNode t config.nodesRoot n .host = .ok table := by
  rw [← exists_all_iff]
  constructor
  · rintro ⟨v, h⟩
    obtain ⟨found, read⟩ := discover_eq_ok_iff.mp h
    exact ⟨⟨_, found⟩, _, read⟩
  · rintro ⟨⟨bound, found⟩, links, read⟩
    exact ⟨⟨bound, links⟩, discover_eq_ok_iff.mpr ⟨found, read⟩⟩

/-- A stale node is passed over. -/
theorem cardEntry_of_stale {n : UInt32} (h : Node.isSupported t config.nodesRoot n = false) :
    Node.cardEntry t config.nodesRoot n = .ok none := by
  unfold Node.cardEntry
  rw [h]
  rfl

namespace DifferInStale

variable (h : DifferInStale config stale t u)
include h

/-- Outside the directories of stale nodes the trees show the same. -/
theorem agree : AgreeOn .use t u (consulted t config stale) := by
  intro p hp
  rw [(h.apart t (.inl rfl)).used p hp, (h.apart u (.inr rfl)).used p hp, h.outside]

theorem agree_bus : AgreeOn .inspect t u (busLinks t config) := by
  intro p hp
  rw [(h.apart t (.inl rfl)).inspected p hp, (h.apart u (.inr rfl)).inspected p hp, h.outside]

theorem agree_cards : AgreeOn .use t u (consultedCards t config) :=
  h.agree.mono fun _ hp => List.mem_append_left _ hp

theorem nodes_eq : Files.numberedEntries t config.nodesRoot =
    Files.numberedEntries u config.nodesRoot :=
  Files.numberedEntries_eq (h.agree _ (List.mem_append_right _ List.mem_cons_self))

theorem agree_node {n : UInt32} (listed : n ∈ listedNodes t config.nodesRoot)
    (live : n ∉ stale) : AgreeOn .use t u (consultedFor t config stale n) :=
  h.agree.mono fun _ hp => List.mem_append_right _ (List.mem_cons_of_mem _ (List.mem_flatMap.mpr
    ⟨n, List.mem_filter.mpr ⟨listed, decide_eq_true live⟩, hp⟩))

/-- A node is entered alike, and if it is stale not at all. -/
theorem cardEntry_alike {n : UInt32} (listed : n ∈ listedNodes t config.nodesRoot) :
    Outcome.Alike (Node.cardEntry t config.nodesRoot n)
      (Node.cardEntry u config.nodesRoot n) := by
  by_cases dead : n ∈ stale
  · rw [cardEntry_of_stale (h.left n dead), cardEntry_of_stale (h.right n dead)]
    exact .refl _
  · have shown := h.agree_node listed dead
    refine Node.cardEntry_alike (shown.mono fun _ hp => List.mem_append_left _ hp) ?_
    intro gpuId supported read card m linked
    by_cases gone : m ∈ stale
    · exact h.kinds m gone ⟨n, gpuId, listed, supported, read, card, linked⟩
    · exact Node.sameKind_of_seen (shown _ (List.mem_append_right _ (List.mem_map_of_mem
        (List.mem_filter.mpr ⟨linked, decide_eq_true gone⟩))))

/-- **The same devices and nodes are found**, or none in either tree. -/
theorem devices_alike (flags : InitFlags) :
    Outcome.Alike (devices t config flags) (devices u config flags) := by
  have cards : Outcome.Alike (Node.cards t config.nodesRoot) (Node.cards u config.nodesRoot) := by
    unfold Node.cards
    rw [← h.nodes_eq]
    refine Outcome.Alike.bind (Outcome.Alike.mapM fun entry he => ?_) fun _ _ => .refl _
    exact h.cardEntry_alike (List.mem_map_of_mem he)
  refine cards.bind fun nodes _ => ?_
  refine (candidates_alike h.agree_cards h.agree_bus).bind fun found hf => ?_
  rw [bind_eq h.agree_cards (fun c hc => named_of_mem_candidates hf hc)]
  exact .refl _

/-- Where the links of stale nodes can be read, those of all nodes can in both trees or in none. -/
theorem links_read_iff (left : StaleLinksRead config stale t)
    (right : StaleLinksRead config stale u) :
    (∀ n ∈ listedNodes t config.nodesRoot,
      ∃ table, Link.ofNode t config.nodesRoot n .host = .ok table) ↔
    ∀ n ∈ listedNodes u config.nodesRoot,
      ∃ table, Link.ofNode u config.nodesRoot n .host = .ok table := by
  have listed : listedNodes u config.nodesRoot = listedNodes t config.nodesRoot := by
    unfold listedNodes
    rw [h.nodes_eq]
  rw [listed]
  refine forall₂_congr fun n hn => ?_
  by_cases dead : n ∈ stale
  · exact ⟨fun _ => right n dead (by rwa [listed]), fun _ => left n dead hn⟩
  · have links : Outcome.Alike (Link.ofNode t config.nodesRoot n .host)
        (Link.ofNode u config.nodesRoot n .host) :=
      Link.ofNode_alike ((h.agree_node hn dead).mono fun _ hp =>
        List.mem_append_left _ (List.mem_append_left _ (List.mem_append_right _ hp)))
    exact exists_congr fun _ => links.ok_iff

end DifferInStale

/-- **What discovery sees of stale nodes.** Their directories decide neither on the devices nor on
the nodes, and they can only stop discovery by links that cannot be read. -/
theorem isUndisturbed_of_stale (h : DifferInStale config stale t u) (flags : InitFlags) :
    IsUndisturbed config flags stale t u := by
  have found := h.devices_alike flags
  refine ⟨fun v w hv hw => ?_, fun left right => ?_, fun v _ unread => ?_⟩
  · have same := found.ok_iff.mp (discover_eq_ok_iff.mp hv).1
    rw [(discover_eq_ok_iff.mp hw).1] at same
    exact (Except.ok.inj same).symm
  · rw [exists_discover_iff, exists_discover_iff, h.links_read_iff left right]
    exact and_congr_left' (exists_congr fun _ => found.ok_iff)
  · cases hv : discover v config flags with
    | error e => exact ⟨e, rfl⟩
    | ok found =>
      have read := (exists_discover_iff.mp ⟨found, hv⟩).2
      exact absurd (fun n _ listed => read n listed) unread

/-! ## What is seen of stale nodes -/

/-- Both trees have the same devices and nodes, or none can be had of either. -/
def SameDevices (config : Config) (flags : InitFlags) (t u : Tree) : Prop :=
  ((∃ v, discover t config flags = .ok v) ↔ ∃ w, discover u config flags = .ok w) ∧
    ∀ v w, discover t config flags = .ok v → discover u config flags = .ok w → v.bound = w.bound

/-- Devices that are the same are found alike. -/
theorem SameDevices.alike (h : SameDevices config flags t u) :
    Outcome.Alike ((discover t config flags).map bound) ((discover u config flags).map bound) := by
  cases ht : discover t config flags with
  | ok v =>
    obtain ⟨w, hu⟩ := h.1.mp ⟨v, ht⟩
    rw [hu, Except.map, Except.map, h.2 v w ht hu]
    exact .refl _
  | error _ =>
    cases hu : discover u config flags with
    | ok w =>
      obtain ⟨v, hv⟩ := h.1.mpr ⟨w, hu⟩
      rw [ht] at hv
      cases hv
    | error _ => rfl

/-- A system with a card and with two nodes, the second a directory. -/
def pairSystem (first : Tree) (second : List (String × Tree)) : Tree :=
  sampleSystem [("1", first), ("2", .directory second)] []

/-- A directory with one link from a node to another. -/
def sampleLinks (source target : Nat) : Tree :=
  .directory [("0", .directory [("properties", .file (Bytes.ofText ("type 2\nnode_from " ++
    decimalText source ++ "\nnode_to " ++ decimalText target ++
    "\nweight 20\nmin_bandwidth 0\nmax_bandwidth 0\n")))])]

/-- The node of the card, with a link to the second node. -/
def linkedNode : Tree :=
  match sampleNode 21 0x300 with
  | .directory entries => .directory (("io_links", sampleLinks 1 2) :: entries)
  | other => other

/-- What is left of a node that has lost its properties. -/
def staleNode (gpuId : Nat) : List (String × Tree) :=
  [("gpu_id", .file (Bytes.ofText (decimalText gpuId)))]

/-- What is left of a processor, with a link that says nothing but its kind. -/
def staleBadLink : List (String × Tree) :=
  ("io_links", .directory [("0", .directory [("properties", .file (Bytes.ofText "type 2\n"))])]) ::
    staleNode 0

/-- What is inside the directory of the second node is gone when it is emptied. -/
theorem differInside_pairSystem {first : Tree} {second second' : List (String × Tree)}
    (left : Node.isSupported (pairSystem first second) sampleConfig.nodesRoot 2 = false)
    (right : Node.isSupported (pairSystem first second') sampleConfig.nodesRoot 2 = false) :
    DifferInside sampleConfig [2] (pairSystem first second) (pairSystem first second') := by
  have emptied : ∀ entries, (pairSystem first entries).emptied
      (staleDirectories sampleConfig [2]) = pairSystem first [] := fun _ => rfl
  exact ⟨List.forall_mem_singleton.mpr left, List.forall_mem_singleton.mpr right,
    (emptied second).trans (emptied second').symm⟩

/-- Where nothing leads into the directory of a stale node, and it keeps its kind, a link of its own
makes no difference. -/
theorem isUndisturbed_pairSystem :
    DifferInStale sampleConfig [2] (pairSystem linkedNode (staleNode 0))
        (pairSystem linkedNode (("io_links", sampleLinks 2 1) :: staleNode 0)) ∧
      IsUndisturbed sampleConfig ⟨1⟩ [2] (pairSystem linkedNode (staleNode 0))
        (pairSystem linkedNode (("io_links", sampleLinks 2 1) :: staleNode 0)) ∧
      (discover (pairSystem linkedNode (staleNode 0)) sampleConfig ⟨1⟩).isOk = true := by
  have differ : DifferInStale sampleConfig [2] (pairSystem linkedNode (staleNode 0))
      (pairSystem linkedNode (("io_links", sampleLinks 2 1) :: staleNode 0)) := by
    refine ⟨differInside_pairSystem (by decide +kernel) (by decide +kernel), ?_, ?_⟩
    · rintro v (rfl | rfl)
      · exact ⟨by decide +kernel, by decide +kernel⟩
      · exact ⟨by decide +kernel, by decide +kernel⟩
    · intro m hm _
      cases List.mem_singleton.mp hm
      unfold Node.SameKind
      decide +kernel
  exact ⟨differ, isUndisturbed_of_stale differ ⟨1⟩, by decide +kernel⟩

/-- The second node is stale in both systems, which differ only inside its directory, and still they
do not have the same devices and nodes. -/
structure IsSeen (first : Tree) (second second' : List (String × Tree)) : Prop where
  inside : DifferInside sampleConfig [2] (pairSystem first second) (pairSystem first second')
  differ : ¬ SameDevices sampleConfig ⟨1⟩ (pairSystem first second) (pairSystem first second')

/-- **Stale nodes are seen** by links of theirs that cannot be read, by the numbers that tell cards
from processors, and by what leads into their directories from outside. -/
theorem stale_nodes_are_seen :
    IsSeen linkedNode (staleNode 0) staleBadLink ∧
      IsSeen linkedNode (staleNode 0) (staleNode 5) ∧
      IsSeen (.link "2/inner") [("inner", sampleNode 21 0x300)]
        [("inner", sampleNode 22 0x300)] := by
  have seen : ∀ {first second second'},
      Node.isSupported (pairSystem first second) sampleConfig.nodesRoot 2 = false →
      Node.isSupported (pairSystem first second') sampleConfig.nodesRoot 2 = false →
      ((discover (pairSystem first second) sampleConfig ⟨1⟩).map bound).toOption ≠
        ((discover (pairSystem first second') sampleConfig ⟨1⟩).map bound).toOption →
      IsSeen first second second' :=
    fun left right other =>
      ⟨differInside_pairSystem left right, fun same => other same.alike⟩
  exact ⟨seen (by decide +kernel) (by decide +kernel) (by decide +kernel),
    seen (by decide +kernel) (by decide +kernel) (by decide +kernel),
    seen (by decide +kernel) (by decide +kernel) (by decide +kernel)⟩

end Inventory

end GpuManagement
