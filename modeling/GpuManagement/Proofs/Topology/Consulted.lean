import GpuManagement.Proofs.Files.Sight
import GpuManagement.Proofs.Topology.Inventory
import Mathlib.Data.List.Basic
import Mathlib.Data.List.Find

/-!
# What discovery looks at

Each part of discovery has the list of paths that it follows (`Link.consulted`, `Node.consulted`,
`Monitor.consulted`, `Device.consulted`), and a law: in two trees that show the same at these paths
the part comes to the same, whatever else is in them. The lists are computed, so that it can be
tried on a tree whether another shows the same.

A card looks beyond its own node once, to tell the processors among the nodes that its links lead
to, and this is kept apart (`Node.cardEntry_alike`).
-/

namespace GpuManagement

open GpuManagement.Tree (AgreeOn)

variable {t u : Tree}

/-! ## Links -/

namespace Link

/-- What is looked at for the links in one directory of a node. -/
def consulted (t : Tree) (nodesRoot : Path) (node : UInt32) (directory : LinkDirectory) :
    List Path :=
  let listed := (nodeDirectory nodesRoot node).child directory.name
  listed :: (Files.numberedEntries t listed).map fun entry =>
    file nodesRoot node entry.1 directory

theorem ofNode_alike {nodesRoot : Path} {node : UInt32} {directory : LinkDirectory}
    (h : AgreeOn .use t u (consulted t nodesRoot node directory)) :
    Outcome.Alike (ofNode t nodesRoot node directory) (ofNode u nodesRoot node directory) := by
  unfold ofNode
  simp only [← Files.numberedEntries_eq (h _ List.mem_cons_self)]
  refine Outcome.Alike.bind (Outcome.Alike.mapM fun entry listed => ?_) fun _ _ => .refl _
  have shown := h _ (List.mem_cons_of_mem _ (List.mem_map.mpr ⟨entry, listed, rfl⟩))
  exact (Files.readProperties_alike shown).bind fun _ _ => .refl _

end Link

/-! ## Nodes -/

namespace Node

variable {nodesRoot : Path} {index : UInt32}

/-- What is looked at in the directory of a node. -/
def consulted (t : Tree) (nodesRoot : Path) (index : UInt32) : List Path :=
  let directory := Link.nodeDirectory nodesRoot index
  [directory.child "properties", directory.child "gpu_id", directory.child "name"] ++
    Link.consulted t nodesRoot index .host ++ Link.consulted t nodesRoot index .peer

/-- The nodes that the links of a node through the host lead to. -/
def linkTargets (t : Tree) (nodesRoot : Path) (index : UInt32) : List UInt32 :=
  ((Link.ofNode t nodesRoot index .host).toOption.getD []).map Prod.fst

/-- Both trees make the node a processor, or both a card, or in both it cannot be told. -/
def SameKind (t u : Tree) (nodesRoot : Path) (index : UInt32) : Prop :=
  (readGpuId t nodesRoot index).toOption.map (· == 0) =
    (readGpuId u nodesRoot index).toOption.map (· == 0)

theorem isSupported_eq
    (h : t.seen? .use (propertyFile nodesRoot index) =
      u.seen? .use (propertyFile nodesRoot index)) :
    isSupported t nodesRoot index = isSupported u nodesRoot index := by
  unfold isSupported
  rcases (Files.readProperties_alike h).cases with ⟨_, ht, hu⟩ | ⟨_, _, ht, hu⟩
  · rw [ht, hu]
  · rw [ht, hu]

theorem readGpuId_alike
    (h : t.seen? .use ((Link.nodeDirectory nodesRoot index).child "gpu_id") =
      u.seen? .use ((Link.nodeDirectory nodesRoot index).child "gpu_id")) :
    Outcome.Alike (readGpuId t nodesRoot index) (readGpuId u nodesRoot index) :=
  (Files.readText_alike h).bind fun _ _ => .refl _

theorem sameKind_of_seen
    (h : t.seen? .use ((Link.nodeDirectory nodesRoot index).child "gpu_id") =
      u.seen? .use ((Link.nodeDirectory nodesRoot index).child "gpu_id")) :
    SameKind t u nodesRoot index := congrArg (Option.map (· == 0)) (readGpuId_alike h)

/-- Links are told apart alike when the nodes they lead to are of the same kinds. -/
theorem classifyLinks_alike {table : Table UInt32 Link}
    (kinds : ∀ entry ∈ table, SameKind t u nodesRoot entry.1) :
    Outcome.Alike (classifyLinks t nodesRoot table) (classifyLinks u nodesRoot table) := by
  refine Outcome.Alike.mapM fun entry listed => ?_
  have kind := kinds entry listed
  unfold SameKind at kind
  cases ht : readGpuId t nodesRoot entry.1 with
  | error _ =>
    cases hu : readGpuId u nodesRoot entry.1 with
    | error _ => rfl
    | ok _ => rw [ht, hu] at kind; cases kind
  | ok id =>
    cases hu : readGpuId u nodesRoot entry.1 with
    | error _ => rw [ht, hu] at kind; cases kind
    | ok id' =>
      rw [ht, hu] at kind
      exact congrArg (fun processor => some (entry.2, processor)) (Option.some.inj kind)

theorem readCard_alike {gpuId : UInt64} {properties : Table String UInt64}
    (h : AgreeOn .use t u (consulted t nodesRoot index))
    (kinds : ∀ m ∈ linkTargets t nodesRoot index, SameKind t u nodesRoot m) :
    Outcome.Alike (readCard t nodesRoot index gpuId properties)
      (readCard u nodesRoot index gpuId properties) := by
  have name : Outcome.Alike
      (Files.readText t ((Link.nodeDirectory nodesRoot index).child "name"))
      (Files.readText u ((Link.nodeDirectory nodesRoot index).child "name")) :=
    Files.readText_alike (h _ (by simp only [consulted, List.mem_append, List.mem_cons, true_or,
      or_true]))
  have host : Outcome.Alike (Link.ofNode t nodesRoot index .host)
      (Link.ofNode u nodesRoot index .host) :=
    Link.ofNode_alike (h.mono fun p hp => List.mem_append_left _ (List.mem_append_right _ hp))
  have peer : Outcome.Alike (Link.ofNode t nodesRoot index .peer)
      (Link.ofNode u nodesRoot index .peer) :=
    Link.ofNode_alike (h.mono fun p hp => List.mem_append_right _ hp)
  unfold readCard
  cases properties.get? "hive_id" with
  | none => rfl
  | some hive =>
    rcases host.cases with ⟨table, ht, hu⟩ | ⟨e, e', ht, hu⟩
    · simp only [ht, hu]
      have kinds : ∀ entry ∈ table, SameKind t u nodesRoot entry.1 := by
        intro entry listed
        refine kinds entry.1 ?_
        unfold linkTargets
        rw [ht]
        exact List.mem_map_of_mem listed
      refine (classifyLinks_alike kinds).bind fun links _ => ?_
      refine Outcome.Alike.bind (.refl _) fun cuCount _ => ?_
      rcases name.cases with ⟨_, nt, nu⟩ | ⟨_, _, nt, nu⟩ <;>
        rcases peer.cases with ⟨_, pt, pu⟩ | ⟨_, _, pt, pu⟩ <;>
        (rw [nt, nu, pt, pu]; rfl)
    · simp only [ht, hu]
      rfl

/-- **A node is entered alike** where its own directory shows the same, and the nodes that it links
to, if it is a card, are of the same kinds. -/
theorem cardEntry_alike (h : AgreeOn .use t u (consulted t nodesRoot index))
    (kinds : ∀ gpuId, isSupported t nodesRoot index = true →
      readGpuId t nodesRoot index = .ok gpuId → gpuId ≠ 0 →
      ∀ m ∈ linkTargets t nodesRoot index, SameKind t u nodesRoot m) :
    Outcome.Alike (cardEntry t nodesRoot index) (cardEntry u nodesRoot index) := by
  have properties := h (propertyFile nodesRoot index) List.mem_cons_self
  have gpu := h ((Link.nodeDirectory nodesRoot index).child "gpu_id")
    (List.mem_cons_of_mem _ List.mem_cons_self)
  unfold cardEntry
  rw [← isSupported_eq properties]
  cases supported : isSupported t nodesRoot index with
  | false => rfl
  | true =>
    have node : Outcome.Alike (read t nodesRoot index) (read u nodesRoot index) := by
      refine (Files.readProperties_alike properties).bind fun table _ => ?_
      refine (readGpuId_alike gpu).bind fun gpuId hg => ?_
      by_cases zero : gpuId = 0
      · rw [if_pos zero, if_pos zero]
        exact .refl _
      · rw [if_neg zero, if_neg zero]
        exact readCard_alike h (kinds gpuId supported hg zero)
    exact node.bind fun _ _ => .refl _

end Node

/-! ## Sensors -/

namespace Monitor

/-- What is looked at in a directory of sensors. -/
def consulted (t : Tree) (directory : Path) : List Path :=
  directory :: directory.child "name" ::
    [SensorFile.tempLabel, .voltLabel].flatMap fun label =>
      ((filesIn t directory).indices label.pattern).map (fileIn directory label)

theorem labelled_eq {α : Type} {directory : Path} {label : SensorFile}
    {sensorOf : List Char → Option α} {indices : List UInt32}
    (h : ∀ index ∈ indices, t.seen? .use (fileIn directory label index) =
      u.seen? .use (fileIn directory label index)) :
    labelled t directory label sensorOf indices = labelled u directory label sensorOf indices := by
  unfold labelled
  refine List.filterMap_congr fun index listed => ?_
  rcases (Files.readWord_alike (h index listed)).cases with ⟨_, ht, hu⟩ | ⟨_, _, ht, hu⟩
  · rw [ht, hu]
  · rw [ht, hu]

/-- The directory of sensors is found alike. -/
theorem find_eq {card : Path}
    (root : t.seen? .use ((card.child "device").child "hwmon") =
      u.seen? .use ((card.child "device").child "hwmon"))
    (names : ∀ name ∈ Files.listNames t ((card.child "device").child "hwmon"),
      t.seen? .use ((((card.child "device").child "hwmon").child name).child "name") =
        u.seen? .use ((((card.child "device").child "hwmon").child name).child "name")) :
    find t card = find u card := by
  unfold find
  simp only [← Files.listNames_eq root]
  refine List.find?_congr fun directory listed => ?_
  obtain ⟨name, hn, rfl⟩ := List.mem_map.mp listed
  rcases (Files.readWord_alike (names name hn)).cases with ⟨_, ht, hu⟩ | ⟨_, _, ht, hu⟩
  · rw [ht, hu]
  · rw [ht, hu]

/-- What is found is a directory that is listed. -/
theorem mem_of_find {card directory : Path} (h : find t card = some directory) :
    directory ∈ (Files.listNames t ((card.child "device").child "hwmon")).map
      ((card.child "device").child "hwmon").child := List.mem_of_find?_eq_some h

theorem ofDirectory_eq {directory : Path} (h : AgreeOn .use t u (consulted t directory)) :
    ofDirectory t directory = ofDirectory u directory := by
  have files : filesIn t directory = filesIn u directory := by
    unfold filesIn
    rw [Files.listNames_eq (h _ List.mem_cons_self)]
  have labels : ∀ label ∈ [SensorFile.tempLabel, .voltLabel],
      ∀ index ∈ (filesIn t directory).indices label.pattern,
        t.seen? .use (fileIn directory label index) =
          u.seen? .use (fileIn directory label index) := by
    intro label hl index hi
    exact h _ (List.mem_cons_of_mem _ (List.mem_cons_of_mem _ (List.mem_flatMap.mpr
      ⟨label, hl, List.mem_map_of_mem hi⟩)))
  have temperatures := labels .tempLabel List.mem_cons_self
  have voltages := labels .voltLabel (List.mem_cons_of_mem _ List.mem_cons_self)
  unfold ofDirectory
  simp only [← files, labelled_eq voltages]
  cases hi : (filesIn t directory).indices SensorFile.tempLabel.pattern with
  | nil => rfl
  | cons first rest =>
    rw [hi] at temperatures
    simp only [labelled_eq temperatures]

end Monitor

/-! ## Cards -/

theorem EventGroup.ofCard_eq {root : Path} {card : UInt32}
    (h : AgreeOn .use t u (all.map fun g => root.child (g.directoryName card))) :
    ofCard t root card = ofCard u root card := by
  unfold ofCard
  refine congrArg (List.map number) (List.filter_congr fun g hg => ?_)
  exact Files.isDirectory_eq (h _ (List.mem_map_of_mem hg))

namespace Device

/-- The directories in which the sensors of a card may be. -/
def sensorDirectories (t : Tree) (config : Config) (card : Path) : List Path :=
  match config.hwmonOverride with
  | some directory => [directory]
  | none =>
    let root := (card.child "device").child "hwmon"
    (Files.listNames t root).map root.child

/-- What is looked at for a card and for the device that is made of it, the link to its place on the
bus apart. -/
def consulted (t : Tree) (config : Config) (n : UInt32) : List Path :=
  let card := Inventory.cardDirectory config.drmRoot n
  let device := card.child "device"
  [card, device.join Attribute.vendorId.file, device.join Attribute.uniqueId.file,
      device.child "drm", device.child "hwmon"] ++
    EventGroup.all.map (fun g => config.eventSourceRoot.child (g.directoryName n)) ++
    (sensorDirectories t config card).flatMap (Monitor.consulted t)

variable {config : Config} {n : UInt32}

theorem renderMinorOf_eq {card : Path}
    (h : t.seen? .use ((card.child "device").child "drm") =
      u.seen? .use ((card.child "device").child "drm")) :
    renderMinorOf t card = renderMinorOf u card := by
  unfold renderMinorOf
  rw [Files.listNames_eq h]

theorem monitorOf_eq {card : Path} (hwmon : t.seen? .use ((card.child "device").child "hwmon") =
      u.seen? .use ((card.child "device").child "hwmon"))
    (h : ∀ directory ∈ sensorDirectories t config card,
      AgreeOn .use t u (Monitor.consulted t directory)) :
    monitorOf t config card = monitorOf u config card := by
  unfold monitorOf
  unfold sensorDirectories at h
  cases override : config.hwmonOverride with
  | some directory =>
    rw [override] at h
    exact congrArg some (Monitor.ofDirectory_eq (h directory List.mem_cons_self))
  | none =>
    rw [override] at h
    have found : Monitor.find t card = Monitor.find u card :=
      Monitor.find_eq hwmon fun name hn =>
        h _ (List.mem_map_of_mem hn) _ (List.mem_cons_of_mem _ List.mem_cons_self)
    rw [Option.none_or, Option.none_or, ← found]
    cases hf : Monitor.find t card with
    | none => rfl
    | some directory =>
      exact congrArg some (Monitor.ofDirectory_eq (h directory (Monitor.mem_of_find hf)))

/-- **A device is made alike** of a card in two trees that show the same of it. -/
theorem ofCard_eq (h : AgreeOn .use t u (consulted t config n)) (address : BusAddress)
    (node : Node) :
    ofCard t config (Inventory.cardDirectory config.drmRoot n) n address node =
      ofCard u config (Inventory.cardDirectory config.drmRoot n) n address node := by
  have files := h.mono fun p hp => List.mem_append_left _ (List.mem_append_left _ hp)
  have groups := h.mono fun p hp => List.mem_append_left _ (List.mem_append_right _ hp)
  have sensors := h.mono fun p hp => List.mem_append_right _ hp
  have minor : renderMinorOf t (Inventory.cardDirectory config.drmRoot n) =
      renderMinorOf u (Inventory.cardDirectory config.drmRoot n) :=
    renderMinorOf_eq (files _ (by simp only [List.mem_cons, true_or, or_true]))
  have monitor : monitorOf t config (Inventory.cardDirectory config.drmRoot n) =
      monitorOf u config (Inventory.cardDirectory config.drmRoot n) :=
    monitorOf_eq (files _ (by simp only [List.mem_cons, true_or, or_true]))
      fun directory hd => sensors.mono fun p hp => List.mem_flatMap.mpr ⟨directory, hd, hp⟩
  have events := EventGroup.ofCard_eq groups
  unfold ofCard
  rw [minor, monitor, events]

end Device

namespace Inventory

variable {config : Config} {flags : InitFlags} {nodes : Table BusAddress Node}

/-- The numbers that names in the directory of cards carry. -/
def namedCards (t : Tree) (root : Path) : List UInt32 :=
  (Files.listNames t root).filterMap fun name => Files.numberAfter? "card".toList name.toList

/-- What is looked at for all cards, the links to their places on the bus apart. -/
def consultedCards (t : Tree) (config : Config) : List Path :=
  config.drmRoot :: (namedCards t config.drmRoot).flatMap (Device.consulted t config)

/-- The links of the cards to their places on the bus, which are looked at themselves. -/
def busLinks (t : Tree) (config : Config) : List Path :=
  (namedCards t config.drmRoot).map fun n => (cardDirectory config.drmRoot n).child "device"

/-- What is looked at for one of the cards. -/
theorem agreeOn_card (h : AgreeOn .use t u (consultedCards t config)) {n : UInt32}
    (named : n ∈ namedCards t config.drmRoot) :
    AgreeOn .use t u (Device.consulted t config n) :=
  h.mono fun _ hp => List.mem_cons_of_mem _ (List.mem_flatMap.mpr ⟨n, named, hp⟩)

theorem mem_namedCards_of_mem_cardNumbers {root : Path} {n : UInt32}
    (h : n ∈ cardNumbers t root) : n ∈ namedCards t root := by
  unfold cardNumbers at h
  obtain ⟨_, hm⟩ := Table.mem_keys_ofEntries.mp h
  obtain ⟨_, hn, same⟩ := List.mem_map.mp hm
  cases same
  exact (List.mem_filter.mp hn).1

/-- The same cards take part. -/
theorem eligible_eq (h : AgreeOn .use t u (consultedCards t config)) (flags : InitFlags) :
    eligible t config.drmRoot flags = eligible u config.drmRoot flags := by
  have directories : (namedCards t config.drmRoot).filter
      (fun n => t.isDirectory (cardDirectory config.drmRoot n)) =
        (namedCards t config.drmRoot).filter
          (fun n => u.isDirectory (cardDirectory config.drmRoot n)) :=
    List.filter_congr fun n hn =>
      Files.isDirectory_eq (agreeOn_card h hn _ (by simp only [Device.consulted, List.mem_append,
        List.mem_cons, true_or]))
  have numbers : cardNumbers t config.drmRoot = cardNumbers u config.drmRoot := by
    show (Table.ofEntries (((namedCards t config.drmRoot).filter _).map _)).keys = _
    rw [directories]
    unfold cardNumbers namedCards
    rw [Files.listNames_eq (h _ List.mem_cons_self)]
  unfold eligible
  rw [← numbers]
  refine List.filter_congr fun n hn => ?_
  have vendor := agreeOn_card h (mem_namedCards_of_mem_cardNumbers hn)
    (((cardDirectory config.drmRoot n).child "device").join Attribute.vendorId.file)
    (by simp only [Device.consulted, List.mem_append, List.mem_cons, true_or, or_true])
  unfold isOfVendor
  rcases (Files.readWord_alike vendor).cases with ⟨_, ht, hu⟩ | ⟨_, _, ht, hu⟩
  · rw [ht, hu]
  · rw [ht, hu]

/-- A card contributes the same. -/
theorem candidatesOf_alike {n : UInt32} (h : AgreeOn .use t u (Device.consulted t config n))
    (bus : t.seen? .inspect ((cardDirectory config.drmRoot n).child "device") =
      u.seen? .inspect ((cardDirectory config.drmRoot n).child "device")) :
    Outcome.Alike (candidatesOf t nodes config.drmRoot n)
      (candidatesOf u nodes config.drmRoot n) := by
  have unique := h (((cardDirectory config.drmRoot n).child "device").join
    Attribute.uniqueId.file)
    (by simp only [Device.consulted, List.mem_append, List.mem_cons, true_or, or_true])
  have split : partitions t nodes (cardDirectory config.drmRoot n) =
      partitions u nodes (cardDirectory config.drmRoot n) := by
    unfold partitions
    rcases (Files.readHex_alike unique).cases with ⟨_, ht, hu⟩ | ⟨_, _, ht, hu⟩
    · rw [ht, hu]
    · rw [ht, hu]
  have address : Outcome.Alike (BusAddress.ofCardPath t (cardDirectory config.drmRoot n))
      (BusAddress.ofCardPath u (cardDirectory config.drmRoot n)) :=
    (Files.readLink_alike bus).bind fun _ _ => .refl _
  unfold candidatesOf
  simp only [← split]
  cases partitions t nodes (cardDirectory config.drmRoot n) with
  | nil => exact address.bind fun _ _ => .refl _
  | cons _ _ => exact .refl _

/-- The cards contribute the same. -/
theorem candidates_alike (h : AgreeOn .use t u (consultedCards t config))
    (bus : AgreeOn .inspect t u (busLinks t config)) :
    Outcome.Alike (candidates t config flags nodes) (candidates u config flags nodes) := by
  unfold candidates
  rw [← eligible_eq h flags]
  refine Outcome.Alike.bind (Outcome.Alike.mapM fun n hn => ?_) fun _ _ => .refl _
  have named := mem_namedCards_of_mem_cardNumbers (List.mem_filter.mp hn).1
  exact candidatesOf_alike (agreeOn_card h named) (bus _ (List.mem_map_of_mem named))

/-- Candidates are of cards that are named. -/
theorem named_of_mem_candidates {cs : List Candidate}
    (h : candidates t config flags nodes = .ok cs) {c : Candidate} (hc : c ∈ cs) :
    c.cardNumber ∈ namedCards t config.drmRoot ∧
      c.directory = cardDirectory config.drmRoot c.cardNumber := by
  obtain ⟨found, hm, h⟩ := Outcome.bind_eq_ok.mp h
  cases h
  obtain ⟨list, hl, hc⟩ := List.mem_flatten.mp ((sortBy_perm _ _).mem_iff.mp hc)
  obtain ⟨n, hn, hlist⟩ := Outcome.exists_of_mem_mapM hm list hl
  obtain ⟨number, directory⟩ := card_of_mem_candidatesOf hlist hc
  rw [number]
  exact ⟨mem_namedCards_of_mem_cardNumbers (List.mem_filter.mp hn).1, directory⟩

/-- **The same devices are made** of candidates in two trees that show the same of their cards. -/
theorem bind_eq (h : AgreeOn .use t u (consultedCards t config)) {cs : List Candidate}
    (cards : ∀ c ∈ cs, c.cardNumber ∈ namedCards t config.drmRoot ∧
      c.directory = cardDirectory config.drmRoot c.cardNumber) (next : Nat) :
    bind t config next nodes cs = bind u config next nodes cs := by
  induction cs generalizing next nodes with
  | nil => rfl
  | cons c cs ih =>
    obtain ⟨named, directory⟩ := cards c List.mem_cons_self
    have later := fun c hc => cards c (List.mem_cons_of_mem _ hc)
    cases hn : nodes.get? c.address with
    | none => rw [bind_cons_none hn, bind_cons_none hn, ih later]
    | some node =>
      have made := Device.ofCard_eq (agreeOn_card h named) c.address node
      rw [bind_cons_some hn, bind_cons_some hn, ih later, directory, made]

end Inventory

end GpuManagement
