import GpuManagement.Proofs.Data.Outcome
import GpuManagement.Proofs.Data.Table
import GpuManagement.Proofs.Files.Numbered
import GpuManagement.Proofs.Files.Read
import GpuManagement.Topology.Link

/-!
# The table of a node's links

A link is known by its number, which it carries (`Link.read_number`), and every link that can be
read is in the listing of its directory. The table holds one link for each node at the other end,
and where several lead there it is the one with the greatest number (`Link.get?_ofNode`): the
others leave no trace in it.
-/

namespace GpuManagement.Link

variable {t : Tree} {nodesRoot : Path} {node number : UInt32} {directory : LinkDirectory}
  {link other : Link} {table : Table UInt32 Link}

/-! ## Links that can be read -/

/-- The link is what its own directory says. -/
def IsRead (t : Tree) (nodesRoot : Path) (node : UInt32) (directory : LinkDirectory)
    (link : Link) : Prop :=
  read t nodesRoot node link.number directory = .ok link

/-- A link carries the number of the directory it was read from. -/
theorem read_number (h : read t nodesRoot node number directory = .ok link) :
    link.number = number := by
  obtain ⟨table, _, h⟩ := Outcome.bind_eq_ok.mp h
  iterate 8
    obtain ⟨_, _, h⟩ := Outcome.bind_eq_ok.mp h
  cases h
  rfl

theorem isRead_of_read (h : read t nodesRoot node number directory = .ok link) :
    IsRead t nodesRoot node directory link := by
  unfold IsRead
  rwa [read_number h]

theorem IsRead.eq_of_number_eq (h : IsRead t nodesRoot node directory link)
    (h' : IsRead t nodesRoot node directory other) (same : link.number = other.number) :
    link = other := by
  unfold IsRead at h
  rw [same, h'] at h
  exact (Except.ok.inj h).symm

/-- A link that can be read is listed. -/
theorem IsRead.mem_numberedEntries (h : IsRead t nodesRoot node directory link) :
    ∃ path, (link.number, path) ∈
      Files.numberedEntries t ((nodeDirectory nodesRoot node).child directory.name) := by
  obtain ⟨properties, hp, _⟩ := Outcome.bind_eq_ok.mp h
  obtain ⟨text, ht, _⟩ := Outcome.bind_eq_ok.mp hp
  obtain ⟨_, found⟩ := (Files.isReadable_of_readText ht).exists_find
  obtain ⟨entries, hd, _⟩ := Tree.find_child (by decide) found
  exact ⟨_, Files.mem_numberedEntries_of_find (Files.entryNumber?_decimal _) hd⟩

/-- A node with a numbered entry among its links is listed. -/
theorem mem_nodes_of_mem_links {entry : UInt32 × Path}
    (h : entry ∈ Files.numberedEntries t ((nodeDirectory nodesRoot node).child directory.name)) :
    ∃ path, (node, path) ∈ Files.numberedEntries t nodesRoot := by
  have named : Path.IsName directory.name := by cases directory <;> decide
  obtain ⟨_, listed, _⟩ := Files.mem_numberedEntries.mp h
  obtain ⟨_, found⟩ := Files.exists_find_of_mem_listNames listed
  obtain ⟨_, home, _⟩ := Tree.find_child named found
  exact ⟨_, Files.mem_numberedEntries_of_find (Files.entryNumber?_decimal _) home⟩

/-! ## Links that count -/

/-- The link can be read, and none with a greater number leads to the same node. -/
structure IsLatest (t : Tree) (nodesRoot : Path) (node : UInt32) (directory : LinkDirectory)
    (link : Link) : Prop where
  isRead : IsRead t nodesRoot node directory link
  latest : ∀ later, IsRead t nodesRoot node directory later → link.number < later.number →
    later.target ≠ link.target

theorem IsLatest.eq_of_target_eq (h : IsLatest t nodesRoot node directory link)
    (h' : IsLatest t nodesRoot node directory other) (same : link.target = other.target) :
    link = other := by
  rcases Nat.lt_trichotomy link.number.toNat other.number.toNat with less | equal | greater
  · exact absurd same.symm (h.latest other h'.isRead (UInt32.lt_iff_toNat_lt.mpr less))
  · exact h.isRead.eq_of_number_eq h'.isRead (UInt32.toNat_inj.mp equal)
  · exact absurd same (h'.latest link h.isRead (UInt32.lt_iff_toNat_lt.mpr greater))

/-- The listing of a node's links comes to a table when each of them can be read. -/
theorem exists_read_of_ofNode (h : ofNode t nodesRoot node directory = .ok table) :
    ∀ entry ∈ Files.numberedEntries t ((nodeDirectory nodesRoot node).child directory.name),
      ∃ link, read t nodesRoot node entry.1 directory = .ok link := by
  obtain ⟨links, hm, _⟩ := Outcome.bind_eq_ok.mp h
  exact Outcome.exists_mapM_iff.mp ⟨links, hm⟩

theorem ascending_ofNode (h : ofNode t nodesRoot node directory = .ok table) :
    table.Ascending := by
  obtain ⟨links, _, h⟩ := Outcome.bind_eq_ok.mp h
  cases h
  exact Table.ascending_ofEntries _

variable {links : List Link}

/-- The links that a listing comes to are those that can be read. -/
theorem mem_listed (h : (Files.numberedEntries t ((nodeDirectory nodesRoot node).child
      directory.name)).mapM (fun entry => read t nodesRoot node entry.1 directory) = .ok links) :
    link ∈ links ↔ IsRead t nodesRoot node directory link := by
  constructor
  · intro hl
    obtain ⟨entry, _, he⟩ := Outcome.exists_of_mem_mapM h link hl
    exact isRead_of_read he
  · intro hl
    obtain ⟨path, listed⟩ := hl.mem_numberedEntries
    obtain ⟨link', hl', he⟩ := Outcome.exists_mem_of_mapM h _ listed
    cases hl.symm.trans he
    exact hl'

theorem ascending_listed (h : (Files.numberedEntries t ((nodeDirectory nodesRoot node).child
      directory.name)).mapM (fun entry => read t nodesRoot node entry.1 directory) = .ok links) :
    links.Pairwise fun a b => a.number.toNat ≤ b.number.toNat := by
  refine Outcome.pairwise_of_mapM h (Files.ascending_numberedEntries _ _) ?_
  intro a b first second le ha hb
  rwa [read_number ha, read_number hb]

/-- What the table holds counts. -/
theorem isLatest_of_get? (h : ofNode t nodesRoot node directory = .ok table) {target : UInt32}
    (found : table.get? target = some link) :
    IsLatest t nodesRoot node directory link ∧ link.target = target := by
  obtain ⟨links, listed, h⟩ := Outcome.bind_eq_ok.mp h
  cases h
  obtain ⟨before, after, split, others⟩ := Table.get?_ofEntries_eq_some_iff.mp found
  obtain ⟨front, back, rfl, rfl, hback⟩ := List.map_eq_append_iff.mp split
  obtain ⟨link', back', rfl, he, rfl⟩ := List.map_eq_cons_iff.mp hback
  obtain ⟨rfl, rfl⟩ := Prod.mk.inj he
  refine ⟨⟨(mem_listed listed).mp (by simp), fun later hlater greater => ?_⟩, rfl⟩
  rcases List.mem_append.mp ((mem_listed listed).mpr hlater) with hf | hb
  · have le := (List.pairwise_append.mp (ascending_listed listed)).2.2 later hf link'
      List.mem_cons_self
    exact absurd (UInt32.lt_iff_toNat_lt.mp greater) (Nat.not_lt.mpr le)
  · rcases List.mem_cons.mp hb with rfl | hb
    · exact absurd greater (UInt32.lt_irrefl _)
    · exact others (later.target, later) (List.mem_map_of_mem hb)

/-- Where a link can be read, one that counts leads to the same node. -/
theorem IsRead.exists_get? (h : ofNode t nodesRoot node directory = .ok table)
    (hl : IsRead t nodesRoot node directory link) :
    ∃ latest, table.get? link.target = some latest := by
  obtain ⟨links, listed, h⟩ := Outcome.bind_eq_ok.mp h
  cases h
  exact Option.isSome_iff_exists.mp (Table.get?_isSome_iff.mpr (Table.mem_keys_ofEntries.mpr
    ⟨link, List.mem_map_of_mem ((mem_listed listed).mpr hl)⟩))

/-- **The table of links**: a node is reached by the link to it with the greatest number. -/
theorem get?_ofNode (h : ofNode t nodesRoot node directory = .ok table) {target : UInt32} :
    table.get? target = some link ↔
      IsLatest t nodesRoot node directory link ∧ link.target = target := by
  refine ⟨isLatest_of_get? h, ?_⟩
  rintro ⟨hl, rfl⟩
  obtain ⟨latest, found⟩ := hl.isRead.exists_get? h
  obtain ⟨counts, reached⟩ := isLatest_of_get? h found
  cases hl.eq_of_target_eq counts reached.symm
  exact found

/-- The links of all nodes can be read when those of each node that is listed can. -/
theorem exists_all_iff :
    (∃ table, all t nodesRoot directory = .ok table) ↔
      ∀ entry ∈ Files.numberedEntries t nodesRoot,
        ∃ links, ofNode t nodesRoot entry.1 directory = .ok links :=
  Outcome.exists_bind_ok_iff.trans Outcome.exists_mapM_iff

end GpuManagement.Link
