import GpuManagement.Proofs.Topology.Link

/-!
# The links of all nodes

Links are put into tables twice: those of one node by the node they lead to, and those of all nodes
by the two nodes they join. The table of all goes by the source that a link names, not by the node
it is listed at. When each link names the node it is listed at (`AreAtHome`), the two say the same of
any two nodes (`all_isGathered`), also of nodes that are not listed, which have no links.

What a table holds for two nodes is `IsLatest`, the link with the greatest number. For one node this
is `get?_ofNode`. The table of all is filled from the tables of the nodes, so a link that a table of
a node has passed over does not come back.
-/

namespace GpuManagement.Link

variable {t : Tree} {nodesRoot : Path} {node : UInt32} {directory : LinkDirectory} {link : Link}
  {table : Table (UInt32 × UInt32) Link} {links : Table UInt32 Link}

/-- Each link names the node it is listed at as its source. -/
def AreAtHome (t : Tree) (nodesRoot : Path) (directory : LinkDirectory) : Prop :=
  ∀ node link, IsRead t nodesRoot node directory link → link.source = node

/-- It is enough to look at the links that are listed, for others cannot be read. -/
theorem areAtHome_of_listed (home : ∀ entry ∈ Files.numberedEntries t nodesRoot,
    ∀ listed ∈ Files.numberedEntries t ((nodeDirectory nodesRoot entry.1).child directory.name),
      ∀ link, read t nodesRoot entry.1 listed.1 directory = .ok link → link.source = entry.1) :
    AreAtHome t nodesRoot directory := by
  intro node link hl
  obtain ⟨path, listed⟩ := hl.mem_numberedEntries
  obtain ⟨path', known⟩ := mem_nodes_of_mem_links listed
  exact home (node, path') known _ listed link hl

/-! ## The tables of the nodes -/

/-- Every number has a table of links when those that are listed have. -/
theorem exists_ofNode (listed : ∀ entry ∈ Files.numberedEntries t nodesRoot,
    ∃ links, ofNode t nodesRoot entry.1 directory = .ok links) (node : UInt32) :
    ∃ links, ofNode t nodesRoot node directory = .ok links := by
  cases entries : Files.numberedEntries t ((nodeDirectory nodesRoot node).child directory.name) with
  | nil =>
    refine Outcome.exists_bind_ok_iff.mpr (Outcome.exists_mapM_iff.mpr fun entry he => ?_)
    rw [entries] at he
    cases he
  | cons entry rest =>
    have first : entry ∈ Files.numberedEntries t
        ((nodeDirectory nodesRoot node).child directory.name) := by
      rw [entries]
      exact List.mem_cons_self
    obtain ⟨path, known⟩ := mem_nodes_of_mem_links first
    exact listed (node, path) known

theorem IsRead.exists_mem_nodes (h : IsRead t nodesRoot node directory link) :
    ∃ path, (node, path) ∈ Files.numberedEntries t nodesRoot := by
  obtain ⟨path, listed⟩ := h.mem_numberedEntries
  exact mem_nodes_of_mem_links listed

/-! ## The table of all -/

/-- What the table of all holds counts at some node, and stands under the two ends it names. -/
theorem exists_isLatest_of_get?_all (h : all t nodesRoot directory = .ok table) {a b : UInt32}
    (found : table.get? (a, b) = some link) :
    ∃ node, IsLatest t nodesRoot node directory link ∧ link.source = a ∧ link.target = b := by
  obtain ⟨tables, made, h⟩ := Outcome.bind_eq_ok.mp h
  cases h
  obtain ⟨links, hl, entry⟩ := List.mem_flatMap.mp (Table.mem_of_get?_ofEntries found)
  obtain ⟨link', held, e⟩ := List.mem_map.mp entry
  cases e
  obtain ⟨⟨target, _⟩, row, rfl⟩ := List.mem_map.mp held
  obtain ⟨⟨node, _⟩, _, ofNode⟩ := Outcome.exists_of_mem_mapM made links hl
  have counts := isLatest_of_get? ofNode ((Table.mem_iff_get? (ascending_ofNode ofNode)).mp row)
  exact ⟨node, counts.1, rfl, rfl⟩

/-- A link that counts has an entry in the table of all. -/
theorem IsLatest.exists_get?_all (h : all t nodesRoot directory = .ok table)
    (counts : IsLatest t nodesRoot node directory link) :
    ∃ held, table.get? (link.source, link.target) = some held := by
  obtain ⟨tables, made, h⟩ := Outcome.bind_eq_ok.mp h
  cases h
  obtain ⟨path, listed⟩ := counts.isRead.exists_mem_nodes
  obtain ⟨links, hl, ofNode⟩ := Outcome.exists_mem_of_mapM made _ listed
  have row := Table.mem_of_get? ((get?_ofNode ofNode).mpr ⟨counts, rfl⟩)
  refine Option.isSome_iff_exists.mp (Table.get?_isSome_iff.mpr (Table.mem_keys_ofEntries.mpr ?_))
  exact ⟨link, List.mem_flatMap.mpr ⟨links, hl, List.mem_map.mpr
    ⟨link, List.mem_map.mpr ⟨_, row, rfl⟩, rfl⟩⟩⟩

/-- Of links that are at home, the table of all holds those that count. -/
theorem get?_all (home : AreAtHome t nodesRoot directory)
    (h : all t nodesRoot directory = .ok table) {a b : UInt32} :
    table.get? (a, b) = some link ↔
      IsLatest t nodesRoot a directory link ∧ link.source = a ∧ link.target = b := by
  have counted : ∀ {link}, table.get? (a, b) = some link →
      IsLatest t nodesRoot a directory link ∧ link.source = a ∧ link.target = b := by
    intro link found
    obtain ⟨node, counts, source, target⟩ := exists_isLatest_of_get?_all h found
    obtain rfl : a = node := source.symm.trans (home node link counts.isRead)
    exact ⟨counts, source, target⟩
  refine ⟨counted, ?_⟩
  rintro ⟨counts, source, target⟩
  obtain ⟨held, found⟩ := counts.exists_get?_all h
  rw [source, target] at found
  obtain ⟨counts', _, target'⟩ := counted found
  rw [found, counts.eq_of_target_eq counts' (target.trans target'.symm)]

/-- The table of all links says of any two nodes what the table of the first one says of the other,
and that is the link between them with the greatest number. -/
structure IsGathered (t : Tree) (nodesRoot : Path) (directory : LinkDirectory)
    (table : Table (UInt32 × UInt32) Link) : Prop where
  agree : ∀ a, ∃ links, ofNode t nodesRoot a directory = .ok links ∧
    ∀ b, table.get? (a, b) = links.get? b
  get?_iff : ∀ a b link, table.get? (a, b) = some link ↔
    IsLatest t nodesRoot a directory link ∧ link.source = a ∧ link.target = b

/-- **The table of all links is that of each node.** It can be had when each node that is listed has
its own, and of links that are at home it says the same as these. -/
theorem all_isGathered (home : AreAtHome t nodesRoot directory) :
    ((∃ table, all t nodesRoot directory = .ok table) ↔
      ∀ entry ∈ Files.numberedEntries t nodesRoot,
        ∃ links, ofNode t nodesRoot entry.1 directory = .ok links) ∧
    ∀ table, all t nodesRoot directory = .ok table →
      IsGathered t nodesRoot directory table := by
  refine ⟨exists_all_iff, fun table h => ⟨fun a => ?_, fun a b link => get?_all home h⟩⟩
  obtain ⟨links, ofNode⟩ := exists_ofNode (exists_all_iff.mp ⟨table, h⟩) a
  refine ⟨links, ofNode, fun b => Option.ext fun link => ?_⟩
  rw [get?_all home h, get?_ofNode ofNode]
  constructor
  · rintro ⟨counts, _, target⟩
    exact ⟨counts, target⟩
  · rintro ⟨counts, target⟩
    exact ⟨counts, home a link counts.isRead, target⟩

/-! ## Two links to one node -/

/-- The links of a node to others, numbered from 0 on. -/
def sampleLinks (node : Nat) (targets : List Nat) : String × Tree :=
  (decimalText node, .directory [("io_links", .directory (targets.zipIdx.map fun row =>
    (decimalText row.2, .directory [("properties", .file (Bytes.ofText
      ("type 11\nnode_from " ++ decimalText node ++ "\nnode_to " ++ decimalText row.1 ++
        "\nweight 15\nmin_bandwidth 0\nmax_bandwidth 0\n")))])))])

/-- A node with two links to another, which has one back. -/
def doubledTree : Tree :=
  .directory [("nodes", .directory [sampleLinks 1 [2, 2], sampleLinks 2 [1]])]

/-- The second of two links is the one in the table of all. -/
theorem all_isGathered_doubledTree :
    ∃ table, all doubledTree (.root ["nodes"]) .host = .ok table ∧
      (table.get? (1, 2)).map Link.number = some 1 ∧
      IsGathered doubledTree (.root ["nodes"]) .host table := by
  obtain ⟨sources, numbers⟩ :
      ((Files.numberedEntries doubledTree (.root ["nodes"])).all fun entry =>
        (Files.numberedEntries doubledTree
          ((nodeDirectory (.root ["nodes"]) entry.1).child LinkDirectory.host.name)).all fun listed =>
            (read doubledTree (.root ["nodes"]) entry.1 listed.1 .host).toOption.all
              fun link => link.source == entry.1) = true ∧
        (all doubledTree (.root ["nodes"]) .host).toOption.map
          (fun table => (table.get? (1, 2)).map Link.number) = some (some 1) := by
    decide +kernel
  have home : AreAtHome doubledTree (.root ["nodes"]) .host := by
    refine areAtHome_of_listed fun entry he listed hl link read => ?_
    have source := List.all_eq_true.mp (List.all_eq_true.mp sources entry he) listed hl
    rw [read] at source
    exact beq_iff_eq.mp source
  obtain ⟨table, made, number⟩ := Outcome.exists_of_toOption_map numbers
  exact ⟨table, made, number, (all_isGathered home).2 table made⟩

end GpuManagement.Link
