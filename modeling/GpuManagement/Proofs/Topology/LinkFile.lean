import GpuManagement.Proofs.Data.Outcome
import GpuManagement.Proofs.Files.Property
import GpuManagement.Proofs.Files.Read
import GpuManagement.Topology.Link

/-!
# Property files of links

A link needs six keys of its property file. It is read exactly when each of them is defined and the
numbers of both nodes have no more than 32 bits, and each field is what the last definition of its
key settles (`read_eq_ok_iff`). Nothing else in the file has a say: neither the order of lines for
different keys nor lines that define another key or none (`IsFaithful.independent`).

A file that cannot be read as a link is told apart from one that defines nothing at all. That one
counts as missing; in any other a key is missing or a node has too large a number, and the failure
names the first such key in the order of `requiredKeys` (`IsProblem`).
-/

namespace GpuManagement.Link

open Text Files

variable {t : Tree} {nodesRoot p : Path} {node number : UInt32} {directory : LinkDirectory}
  {link : Link} {text : List Char}

/-- The keys that a link needs, in the order in which they are asked for. -/
def requiredKeys : List String :=
  ["type", "node_from", "node_to", "weight", "min_bandwidth", "max_bandwidth"]

/-! ## From a table -/

section Table

variable {table : Table String UInt64}

/-- The first of the keys that the table does not have. -/
def firstMissing? (table : Table String UInt64) (keys : List String) : Option String :=
  keys.find? fun key => !table.has key

/-- A link of these values, unless a key is missing. -/
def unlessMissing (p : Path) (missing : Option String) (link : Outcome Link) : Outcome Link :=
  match missing with
  | some key => .error (.malformedFile p (.missingLinkKey key))
  | none => link

/-- The link that has these values of its keys. -/
def ofValues (p : Path) (node number : UInt32) (directory : LinkDirectory)
    (value : String → UInt64) : Outcome Link := do
  let source ← nodeNumber p "node_from" (value "node_from")
  let target ← nodeNumber p "node_to" (value "node_to")
  .ok ⟨node, number, directory, .ofNumber (value "type"), source, target, value "weight",
    value "min_bandwidth", value "max_bandwidth"⟩

/-- Asking for one key more. -/
theorem required_bind {key : String} {keys : List String} {f : UInt64 → Outcome Link}
    {link : Outcome Link}
    (rest : f ((table.get? key).getD 0) = unlessMissing p (firstMissing? table keys) link) :
    (required p table key >>= f) = unlessMissing p (firstMissing? table (key :: keys)) link := by
  unfold firstMissing? required Table.has at *
  rw [List.find?_cons]
  cases h : table.get? key with
  | none => rfl
  | some value =>
    rw [h] at rest
    exact rest

/-- All keys are asked for before any value is looked at. -/
theorem ofProperties_eq : ofProperties p node number directory table =
    unlessMissing p (firstMissing? table requiredKeys)
      (ofValues p node number directory fun key => (table.get? key).getD 0) := by
  unfold ofProperties requiredKeys
  iterate 6
    refine required_bind ?_
  rfl

end Table

theorem nodeNumber_eq_ok_iff {key : String} {value : UInt64} {n : UInt32} :
    nodeNumber p key value = .ok n ↔ n.toNat = value.toNat := by
  unfold nodeNumber
  split
  · rename_i small
    rw [Except.ok.injEq, ← UInt32.toNat_inj, UInt64.toNat_toUInt32, Nat.mod_eq_of_lt small, eq_comm]
  · rename_i large
    constructor
    · intro h
      cases h
    · intro h
      exact absurd (h ▸ n.toNat_lt_size) large

theorem nodeNumber_eq_error_iff {key : String} {value : UInt64} {e : Error} :
    nodeNumber p key value = .error e ↔
      2 ^ 32 ≤ value.toNat ∧ e = .malformedFile p (.linkValueTooLarge key value) := by
  unfold nodeNumber
  split
  · rename_i small
    constructor
    · intro h
      cases h
    · rintro ⟨large, _⟩
      exact absurd small (Nat.not_lt.mpr large)
  · rename_i large
    have large : 2 ^ 32 ≤ value.toNat := Nat.not_lt.mp large
    rw [Except.error.injEq, eq_comm, and_iff_right large]

/-! ## From a text -/

/-- Every field of the link is what the text settles for its key. -/
structure IsOfText (text : List Char) (node number : UInt32) (directory : LinkDirectory)
    (link : Link) : Prop where
  listedAt : link.listedAt = node
  number : link.number = number
  directory : link.directory = directory
  kind : ∃ n, Settles text "type" n ∧ link.kind = .ofNumber n
  source : ∃ n, Settles text "node_from" n ∧ link.source.toNat = n.toNat
  target : ∃ n, Settles text "node_to" n ∧ link.target.toNat = n.toNat
  weight : Settles text "weight" link.weight
  minBandwidth : Settles text "min_bandwidth" link.minBandwidth
  maxBandwidth : Settles text "max_bandwidth" link.maxBandwidth

/-- What keeps a text from being read as a link: the first key that is missing, or the first node
with too large a number. -/
inductive IsProblem (text : List Char) : Malformation → Prop
  | missing {before after : List String} {key : String}
      (order : requiredKeys = before ++ key :: after) (defined : ∀ k ∈ before, IsDefined text k)
      (missing : ¬ IsDefined text key) : IsProblem text (.missingLinkKey key)
  | source {value : UInt64} (defined : ∀ key ∈ requiredKeys, IsDefined text key)
      (settles : Settles text "node_from" value) (large : 2 ^ 32 ≤ value.toNat) :
      IsProblem text (.linkValueTooLarge "node_from" value)
  | target {value source : UInt64} (defined : ∀ key ∈ requiredKeys, IsDefined text key)
      (first : Settles text "node_from" source) (small : source.toNat < 2 ^ 32)
      (settles : Settles text "node_to" value) (large : 2 ^ 32 ≤ value.toNat) :
      IsProblem text (.linkValueTooLarge "node_to" value)

/-- The value that the text settles for a key. -/
def settledValue (text : List Char) (key : String) : UInt64 :=
  ((properties text).get? key).getD 0

theorem settledValue_eq {key : String} {value : UInt64} (h : Settles text key value) :
    settledValue text key = value := by
  unfold settledValue
  rw [get?_properties_iff.mpr h]
  rfl

theorem settles_settledValue {key : String} (h : IsDefined text key) :
    Settles text key (settledValue text key) := by
  obtain ⟨value, h⟩ := isDefined_iff.mp h
  rwa [settledValue_eq h]

theorem has_properties_iff {key : String} :
    (properties text).has key = true ↔ IsDefined text key := by
  unfold Table.has
  rw [Option.isSome_iff_ne_none, ne_eq, get?_properties_eq_none_iff, not_not]

theorem firstMissing?_eq_none_iff {keys : List String} :
    firstMissing? (properties text) keys = none ↔ ∀ key ∈ keys, IsDefined text key := by
  unfold firstMissing?
  simp only [List.find?_eq_none, Bool.not_eq_true, Bool.not_eq_false', has_properties_iff]

theorem firstMissing?_eq_some_iff {keys : List String} {key : String} :
    firstMissing? (properties text) keys = some key ↔ ¬ IsDefined text key ∧
      ∃ before after, keys = before ++ key :: after ∧ ∀ k ∈ before, IsDefined text k := by
  unfold firstMissing?
  simp only [List.find?_eq_some_iff_append, Bool.not_eq_true', ← Bool.not_eq_true, Bool.not_not,
    has_properties_iff]

/-- The fields of a link are those that a text has for it. -/
theorem isOfText_iff : IsOfText text node number directory link ↔
    (∀ key ∈ requiredKeys, IsDefined text key) ∧
      ofValues p node number directory (settledValue text) = .ok link := by
  unfold ofValues
  simp only [Outcome.bind_eq_ok, nodeNumber_eq_ok_iff, Except.ok.injEq]
  constructor
  · rintro ⟨rfl, rfl, rfl, ⟨kind, hkind, e⟩, ⟨source, hsource, hs⟩, ⟨target, htarget, ht⟩, hweight,
      hmin, hmax⟩
    constructor
    · intro key there
      rw [isDefined_iff]
      simp only [requiredKeys, List.mem_cons, List.not_mem_nil, or_false] at there
      rcases there with rfl | rfl | rfl | rfl | rfl | rfl
      exacts [⟨_, hkind⟩, ⟨_, hsource⟩, ⟨_, htarget⟩, ⟨_, hweight⟩, ⟨_, hmin⟩, ⟨_, hmax⟩]
    · rw [settledValue_eq hkind, settledValue_eq hsource, settledValue_eq htarget,
        settledValue_eq hweight, settledValue_eq hmin, settledValue_eq hmax]
      exact ⟨link.source, hs, link.target, ht, by rw [← e]⟩
  · rintro ⟨defined, source, hs, target, ht, rfl⟩
    have settled := fun key there => settles_settledValue (defined key there)
    exact ⟨rfl, rfl, rfl, ⟨_, settled "type" (by decide), rfl⟩,
      ⟨_, settled "node_from" (by decide), hs⟩, ⟨_, settled "node_to" (by decide), ht⟩,
      settled "weight" (by decide), settled "min_bandwidth" (by decide),
      settled "max_bandwidth" (by decide)⟩

theorem ofProperties_eq_ok_iff : ofProperties p node number directory (properties text) = .ok link ↔
    IsOfText text node number directory link := by
  rw [ofProperties_eq, isOfText_iff, ← firstMissing?_eq_none_iff]
  unfold unlessMissing
  cases firstMissing? (properties text) requiredKeys with
  | some key => exact ⟨fun h => (by cases h), fun h => (by cases h.1)⟩
  | none => exact (and_iff_right rfl).symm

/-- Where no link is made of a text, the failure names the problem. -/
theorem isProblem_of_ofProperties {e : Error}
    (h : ofProperties p node number directory (properties text) = .error e) :
    ∃ problem, e = .malformedFile p problem ∧ IsProblem text problem := by
  rw [ofProperties_eq] at h
  unfold unlessMissing at h
  cases first : firstMissing? (properties text) requiredKeys with
  | some key =>
    rw [first] at h
    cases h
    obtain ⟨missing, before, after, order, defined⟩ := firstMissing?_eq_some_iff.mp first
    exact ⟨_, rfl, .missing order defined missing⟩
  | none =>
    rw [first] at h
    have defined := firstMissing?_eq_none_iff.mp first
    have source := settles_settledValue (defined "node_from" (by decide))
    have target := settles_settledValue (defined "node_to" (by decide))
    rcases Outcome.bind_eq_error.mp h with h | ⟨n, hn, h⟩
    · obtain ⟨large, rfl⟩ := nodeNumber_eq_error_iff.mp h
      exact ⟨_, rfl, .source defined source large⟩
    · have small : (settledValue text "node_from").toNat < 2 ^ 32 :=
        nodeNumber_eq_ok_iff.mp hn ▸ n.toNat_lt_size
      rcases Outcome.bind_eq_error.mp h with h | ⟨_, _, h⟩
      · obtain ⟨large, rfl⟩ := nodeNumber_eq_error_iff.mp h
        exact ⟨_, rfl, .target defined source small target large⟩
      · cases h

/-! ## From a file -/

section File

variable {text : String}

/-- The file of the link holds the text. -/
def Holds (t : Tree) (nodesRoot : Path) (node number : UInt32) (directory : LinkDirectory)
    (text : String) : Prop :=
  t.content (file nodesRoot node number directory) = .ok (Bytes.ofText text)

theorem read_eq (holds : Holds t nodesRoot node number directory text) :
    read t nodesRoot node number directory =
      if (properties text.toList).isEmpty then
        .error (.access (file nodesRoot node number directory) .noEntry)
      else ofProperties (file nodesRoot node number directory) node number directory
        (properties text.toList) := by
  have content := atPath_eq_ok (p := file nodesRoot node number directory) |>.mpr holds
  unfold read readProperties readText readContent
  dsimp only
  rw [content, Outcome.ok_bind, Bytes.text?_ofText, Outcome.ok_bind]
  split <;> rfl

theorem isEmpty_properties_iff :
    (properties text.toList).isEmpty = true ↔ ∀ key, ¬ IsDefined text.toList key := by
  rw [List.isEmpty_iff, properties_eq_nil_iff]

/-- **A link is read when its file has one**, and then it is that one. -/
theorem read_eq_ok_iff (holds : Holds t nodesRoot node number directory text) :
    read t nodesRoot node number directory = .ok link ↔
      IsOfText text.toList node number directory link := by
  rw [read_eq holds]
  split
  · rename_i empty
    constructor
    · intro h
      cases h
    · intro h
      exact absurd (isDefined_iff.mpr ⟨_, h.weight⟩) (isEmpty_properties_iff.mp empty "weight")
  · exact ofProperties_eq_ok_iff

/-- A file whose text defines nothing counts as missing, and no other does. -/
theorem read_noEntry_iff (holds : Holds t nodesRoot node number directory text) :
    read t nodesRoot node number directory =
        .error (.access (file nodesRoot node number directory) .noEntry) ↔
      ∀ key, ¬ IsDefined text.toList key := by
  rw [read_eq holds, ← isEmpty_properties_iff]
  split
  · rename_i empty
    exact ⟨fun _ => empty, fun _ => rfl⟩
  · rename_i nonempty
    refine ⟨fun h => ?_, fun empty => absurd empty nonempty⟩
    obtain ⟨_, e, _⟩ := isProblem_of_ofProperties h
    cases e

/-- Where the text defines something, a failure names the problem of the text. -/
theorem isProblem_of_read (holds : Holds t nodesRoot node number directory text) {key : String}
    (defined : IsDefined text.toList key) {e : Error}
    (h : read t nodesRoot node number directory = .error e) :
    ∃ problem, e = .malformedFile (file nodesRoot node number directory) problem ∧
      IsProblem text.toList problem := by
  rw [read_eq holds, if_neg fun empty => isEmpty_properties_iff.mp empty key defined] at h
  exact isProblem_of_ofProperties h

/-- A text with all keys and numbers that fit has no problem. -/
theorem not_isProblem {text : List Char} (defined : ∀ key ∈ requiredKeys, IsDefined text key)
    (small : ∀ key ∈ ["node_from", "node_to"], ∀ value, Settles text key value →
      value.toNat < 2 ^ 32) (problem : Malformation) : ¬ IsProblem text problem := by
  intro h
  cases h with
  | missing order _ missing =>
    exact missing (defined _ (order ▸ List.mem_append_right _ List.mem_cons_self))
  | source _ settles large => exact Nat.not_lt.mpr large (small _ (by decide) _ settles)
  | target _ _ _ settles large => exact Nat.not_lt.mpr large (small _ (by decide) _ settles)

/-- The nodes of a link have numbers of 32 bits. -/
theorem IsOfText.small {text : List Char} (h : IsOfText text node number directory link) :
    ∀ key ∈ ["node_from", "node_to"], ∀ value, Settles text key value → value.toNat < 2 ^ 32 := by
  intro key there value settles
  obtain ⟨source, hsource, hs⟩ := h.source
  obtain ⟨target, htarget, ht⟩ := h.target
  simp only [List.mem_cons, List.not_mem_nil, or_false] at there
  rcases there with rfl | rfl
  · rw [← settledValue_eq settles, settledValue_eq hsource, ← hs]
    exact link.source.toNat_lt_size
  · rw [← settledValue_eq settles, settledValue_eq htarget, ← ht]
    exact link.target.toNat_lt_size

/-- A file is read as a link when all keys are defined and the numbers of the nodes fit. -/
theorem exists_read_iff (holds : Holds t nodesRoot node number directory text) :
    (∃ link, read t nodesRoot node number directory = .ok link) ↔
      (∀ key ∈ requiredKeys, IsDefined text.toList key) ∧
        ∀ key ∈ ["node_from", "node_to"], ∀ value, Settles text.toList key value →
          value.toNat < 2 ^ 32 := by
  constructor
  · rintro ⟨link, h⟩
    have fields := (read_eq_ok_iff holds).mp h
    exact ⟨(isOfText_iff (p := nodesRoot).mp fields).1, fields.small⟩
  · rintro ⟨defined, small⟩
    cases h : read t nodesRoot node number directory with
    | ok link => exact ⟨link, rfl⟩
    | error e =>
      obtain ⟨problem, _, why⟩ := isProblem_of_read holds (defined "type" (by decide)) h
      exact absurd why (not_isProblem defined small problem)

/-- A link of a text is one of every text with the same definitions of its keys. -/
theorem IsOfText.of_definitions_eq {text other : List Char}
    (h : IsOfText text node number directory link)
    (same : ∀ key ∈ requiredKeys, definitions key text = definitions key other) :
    IsOfText other node number directory link := by
  have carry : ∀ {key value}, key ∈ requiredKeys → Settles text key value →
      Settles other key value := fun needed => Settles.of_definitions_eq (same _ needed)
  obtain ⟨kind, hkind, e⟩ := h.kind
  obtain ⟨source, hsource, hs⟩ := h.source
  obtain ⟨target, htarget, ht⟩ := h.target
  constructor
  · exact h.listedAt
  · exact h.number
  · exact h.directory
  · exact ⟨kind, carry (by decide) hkind, e⟩
  · exact ⟨source, carry (by decide) hsource, hs⟩
  · exact ⟨target, carry (by decide) htarget, ht⟩
  · exact carry (by decide) h.weight
  · exact carry (by decide) h.minBandwidth
  · exact carry (by decide) h.maxBandwidth

/-- What becomes of a file of a link. -/
structure IsFaithful (t : Tree) (nodesRoot : Path) (node number : UInt32)
    (directory : LinkDirectory) (text : String) : Prop where
  succeeds_iff : (∃ link, read t nodesRoot node number directory = .ok link) ↔
    (∀ key ∈ requiredKeys, IsDefined text.toList key) ∧
      ∀ key ∈ ["node_from", "node_to"], ∀ value, Settles text.toList key value →
        value.toNat < 2 ^ 32
  fields : ∀ link, read t nodesRoot node number directory = .ok link →
    IsOfText text.toList node number directory link
  /-- Of a text with the same definitions of each of the keys the same link is made. -/
  independent : ∀ (u : Tree) (other : String), Holds u nodesRoot node number directory other →
    (∀ key ∈ requiredKeys, definitions key text.toList = definitions key other.toList) → ∀ link,
      read t nodesRoot node number directory = .ok link →
        read u nodesRoot node number directory = .ok link
  noEntry_iff : read t nodesRoot node number directory =
      .error (.access (file nodesRoot node number directory) .noEntry) ↔
    ∀ key, ¬ IsDefined text.toList key
  malformed : (∃ key, IsDefined text.toList key) → ∀ e,
    read t nodesRoot node number directory = .error e →
      ∃ problem, e = .malformedFile (file nodesRoot node number directory) problem ∧
        IsProblem text.toList problem

/-- **Files of links are read faithfully**, whatever text they hold. -/
theorem isFaithful_read (holds : Holds t nodesRoot node number directory text) :
    IsFaithful t nodesRoot node number directory text := by
  constructor
  · exact exists_read_iff holds
  · exact fun link => (read_eq_ok_iff holds).mp
  · intro u other there same link h
    exact (read_eq_ok_iff there).mpr (((read_eq_ok_iff holds).mp h).of_definitions_eq same)
  · exact read_noEntry_iff holds
  · rintro ⟨key, defined⟩ e h
    exact isProblem_of_read holds defined h

end File

/-! ## A file out of order -/

/-- The keys in another order, one of them defined again after a line that defines nothing, and
words that nobody asks for. -/
def scatteredText : String :=
  "weight 7\nnode_to 2 and more\ntype 2\n\nweight many\nnode_from 1\n\tmin_bandwidth +5\n" ++
    "name 3\nmax_bandwidth 0009\nweight 15\nnode_to"

def scatteredTree : Tree :=
  .directory [("nodes", .directory [("1", .directory [("io_links", .directory [("0", .directory
    [("properties", .file (Bytes.ofText scatteredText))])])])])]

/-- The last line that defines the weight counts. -/
theorem isFaithful_read_scatteredTree :
    (∃ link, read scatteredTree (.root ["nodes"]) 1 0 .host = .ok link ∧ link.weight = 15) ∧
      IsFaithful scatteredTree (.root ["nodes"]) 1 0 .host scatteredText := by
  have weight : (read scatteredTree (.root ["nodes"]) 1 0 .host).toOption.map Link.weight =
      some 15 := by
    decide +kernel
  have holds : Holds scatteredTree (.root ["nodes"]) 1 0 .host scatteredText := by
    unfold Holds
    decide +kernel
  exact ⟨Outcome.exists_of_toOption_map weight, isFaithful_read holds⟩

end GpuManagement.Link
