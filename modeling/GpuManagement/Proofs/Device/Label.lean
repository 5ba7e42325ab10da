import GpuManagement.Proofs.Device.SensorIndex
import GpuManagement.Proofs.Device.Support

/-!
# Sensors and their labels

A label is a file with one word for the sensor that its number stands for. A sensor has the least
number whose label names it, and each number has the sensor that its own label names, though another
may have been chosen for that sensor (`Monitor.isLabelled_ofDirectory`). It does not matter that
numbers are taken from a listing and labels are read by their numbers: what can be read is listed.
-/

namespace GpuManagement

/-! ## Words for sensors -/

theorem TempSensor.ofLabel?_eq_some_iff {word : List Char} {s : TempSensor} :
    ofLabel? word = some s ↔ s.label = word := by
  constructor
  · intro known
    simpa using List.find?_some known
  · rintro rfl
    cases s <;> decide

theorem VoltSensor.ofLabel?_eq_some_iff {word : List Char} {s : VoltSensor} :
    ofLabel? word = some s ↔ s.label = word := by
  constructor
  · intro known
    simpa using List.find?_some known
  · rintro rfl
    cases s
    decide

namespace Monitor

/-! ## Lists of numbers with their sensors -/

section Ascending

variable {α : Type} {sensors : List (UInt32 × α)} {i : UInt32} {s : α}

/-- In a list with ascending numbers a number is looked up as it is listed. -/
theorem lookup_eq_some_iff (ascending : sensors.Pairwise fun a b => a.1 < b.1) :
    sensors.lookup i = some s ↔ (i, s) ∈ sensors := by
  induction sensors with
  | nil => exact ⟨fun h => (by cases h), fun h => (by cases h)⟩
  | cons entry rest ih =>
    obtain ⟨j, other⟩ := entry
    obtain ⟨first, later⟩ := List.pairwise_cons.mp ascending
    rw [List.mem_cons, ← ih later, Prod.mk.injEq]
    by_cases same : i = j
    · subst same
      have once : rest.lookup i ≠ some s := fun h =>
        UInt32.lt_irrefl i (first _ ((ih later).mp h))
      rw [List.lookup_cons_self, Option.some.injEq]
      exact ⟨fun h => .inl ⟨rfl, h.symm⟩, fun h => (h.resolve_right once).2.symm⟩
    · rw [List.lookup_cons, beq_eq_false_iff_ne.mpr same]
      exact ⟨.inr, fun h => h.resolve_left fun both => same both.1⟩

/-- The number of the sensor that is listed with an index, zero where there is none. -/
def kindIn (sensors : List (UInt32 × α)) (numberOf : α → Nat) (i : UInt32) : UInt64 :=
  UInt64.ofNat (((sensors.lookup i).map numberOf).getD 0)

theorem kindIn_of_mem (ascending : sensors.Pairwise fun a b => a.1 < b.1)
    (listed : (i, s) ∈ sensors) (numberOf : α → Nat) :
    kindIn sensors numberOf i = UInt64.ofNat (numberOf s) := by
  unfold kindIn
  rw [(lookup_eq_some_iff ascending).mpr listed]
  rfl

/-- An index has the number of a sensor that is listed with it, or zero. -/
theorem kindIn_cases (ascending : sensors.Pairwise fun a b => a.1 < b.1) (numberOf : α → Nat)
    (i : UInt32) : (∃ s, (i, s) ∈ sensors ∧ kindIn sensors numberOf i = UInt64.ofNat (numberOf s)) ∨
      kindIn sensors numberOf i = 0 := by
  cases found : sensors.lookup i with
  | none =>
    unfold kindIn
    rw [found]
    exact .inr rfl
  | some s =>
    have listed := (lookup_eq_some_iff ascending).mp found
    exact .inl ⟨s, listed, kindIn_of_mem ascending listed numberOf⟩

variable [DecidableEq α]

/-- A sensor that is listed has an index, and that is the least one. -/
theorem indexOf_of_mem (ascending : sensors.Pairwise fun a b => a.1 < b.1)
    (listed : (i, s) ∈ sensors) : ∃ j, indexOf sensors s = .ok j ∧ (j, s) ∈ sensors ∧
      ∀ k, (k, s) ∈ sensors → j ≤ k := by
  have there : (sensors.find? fun entry => entry.2 = s).isSome = true :=
    List.find?_isSome.mpr ⟨(i, s), listed, decide_eq_true rfl⟩
  obtain ⟨⟨j, other⟩, found⟩ := Option.isSome_iff_exists.mp there
  obtain ⟨same, before, after, split, others⟩ := List.find?_eq_some_iff_append.mp found
  obtain rfl : other = s := of_decide_eq_true same
  have index : indexOf sensors other = .ok j :=
    Outcome.ofOption_eq_ok.mpr (Option.map_eq_some_iff.mpr ⟨_, found, rfl⟩)
  refine ⟨j, index, mem_of_indexOf index, fun k hk => ?_⟩
  rw [split] at hk ascending
  rcases List.mem_append.mp hk with h | h
  · exact absurd (others _ h) (by simp)
  · rcases List.mem_cons.mp h with h | h
    · cases h
      exact UInt32.le_refl _
    · have later := (List.pairwise_append.mp ascending).2.1
      exact UInt32.le_of_lt ((List.pairwise_cons.mp later).1 _ h)

/-- The index of a sensor is the least one that is listed with it. -/
theorem indexOf_eq_ok_iff (ascending : sensors.Pairwise fun a b => a.1 < b.1) :
    indexOf sensors s = .ok i ↔ (i, s) ∈ sensors ∧ ∀ k, (k, s) ∈ sensors → i ≤ k := by
  constructor
  · intro index
    obtain ⟨j, index', listed, least⟩ := indexOf_of_mem ascending (mem_of_indexOf index)
    cases index.symm.trans index'
    exact ⟨listed, least⟩
  · rintro ⟨listed, least⟩
    obtain ⟨j, index, listed', least'⟩ := indexOf_of_mem ascending listed
    rwa [UInt32.le_antisymm (least j listed') (least' i listed)]

/-- A sensor without an index is not supported. -/
theorem indexOf_of_missing (missing : ∀ i, indexOf sensors s ≠ .ok i) :
    indexOf sensors s = .fail .notSupported := by
  cases index : indexOf sensors s with
  | ok i => exact absurd index (missing i)
  | error e =>
    rw [(indexOf_eq_error_iff.mp index).2]
    rfl

end Ascending

/-! ## Labels that are read -/

/-- The label with a number can be read, and its first word is `word`. -/
def Names (t : Tree) (directory : Path) (label : SensorFile) (word : List Char) (i : UInt32) :
    Prop := Files.readWord t (fileIn directory label i) = .ok word

/-- A label that can be read is listed. -/
theorem Names.mem_indices {t : Tree} {directory : Path} {label : SensorFile} {word : List Char}
    {i : UInt32} (named : Names t directory label word i) (numbered : label ≠ .name) :
    i ∈ (filesIn t directory).indices label.pattern :=
  mem_indices_of_isReadable (m := ⟨directory, [], []⟩) numbered (Files.isReadable_of_readWord named)

section Labelled

variable {α : Type} {t : Tree} {directory : Path} {label : SensorFile}
  {sensorOf : List Char → Option α} {labelOf : α → List Char} {indices : List UInt32}
  {i : UInt32} {s : α}

theorem mem_labelled_iff : (i, s) ∈ labelled t directory label sensorOf indices ↔
    i ∈ indices ∧ ∃ word, Names t directory label word i ∧ sensorOf word = some s := by
  unfold labelled Names
  rw [List.mem_filterMap]
  constructor
  · rintro ⟨j, listed, h⟩
    cases read : Files.readWord t (fileIn directory label j) with
    | error _ =>
      rw [read] at h
      cases h
    | ok word =>
      rw [read] at h
      obtain ⟨_, known, e⟩ := Option.map_eq_some_iff.mp h
      cases e
      exact ⟨listed, word, read, known⟩
  · rintro ⟨listed, word, read, known⟩
    refine ⟨i, listed, ?_⟩
    rw [read]
    exact Option.map_eq_some_iff.mpr ⟨s, known, rfl⟩

/-- The listing leaves out no label that can be read. -/
theorem mem_labelled_indices_iff (numbered : label ≠ .name)
    (known : ∀ {word s}, sensorOf word = some s ↔ labelOf s = word) :
    (i, s) ∈ labelled t directory label sensorOf ((filesIn t directory).indices label.pattern) ↔
      Names t directory label (labelOf s) i := by
  rw [mem_labelled_iff]
  constructor
  · rintro ⟨_, word, read, h⟩
    rwa [known.mp h]
  · intro named
    exact ⟨named.mem_indices numbered, _, named, known.mpr rfl⟩

theorem pairwise_labelled (ascending : indices.Pairwise (· < ·)) :
    (labelled t directory label sensorOf indices).Pairwise fun a b => a.1 < b.1 := by
  refine List.Pairwise.filterMap _ (fun i j less a ha b hb => ?_) ascending
  split at ha
  · obtain ⟨_, _, rfl⟩ := Option.map_eq_some_iff.mp ha
    split at hb
    · obtain ⟨_, _, rfl⟩ := Option.map_eq_some_iff.mp hb
      exact less
    · cases hb
  · cases ha

end Labelled

/-! ## Sensors of a family -/

/-- The number is the least one whose label has the word. -/
structure IsFirst (t : Tree) (directory : Path) (label : SensorFile) (word : List Char)
    (i : UInt32) : Prop where
  named : Names t directory label word i
  least : ∀ k, Names t directory label word k → i ≤ k

/-- No file of the directory is a label of the family. -/
def IsUnlabelled (t : Tree) (directory : Path) (label : SensorFile) : Prop :=
  (filesIn t directory).indices label.pattern = []

/-- What is told of the sensors of a family: the index of each, and the sensor of a number. Where
there are no labels it has the sensor `spare`, if any. -/
structure IsLabelled {α : Type} (t : Tree) (directory : Path) (label : SensorFile)
    (labelOf : α → List Char) (numberOf : α → Nat) (spare : Option (UInt32 × α))
    (index : α → Outcome UInt32) (kind : UInt32 → UInt64) : Prop where
  found : ∀ s i, index s = .ok i ↔ IsFirst t directory label (labelOf s) i ∨
    IsUnlabelled t directory label ∧ spare = some (i, s)
  missing : ∀ s, (∀ i, index s ≠ .ok i) → index s = .fail .notSupported
  kind_of_index : ∀ s i, index s = .ok i → kind i = UInt64.ofNat (numberOf s)
  kind_of_label : ∀ s i, Names t directory label (labelOf s) i →
    kind i = UInt64.ofNat (numberOf s)

section Family

variable {α : Type} {t : Tree} {directory : Path} {label : SensorFile}
  {sensorOf : List Char → Option α} {labelOf : α → List Char} {spare : Option (UInt32 × α)}
  {i : UInt32} {s : α}

/-- The sensors of a family, with one to spare for a directory without labels. -/
def sensorsOf (t : Tree) (directory : Path) (label : SensorFile)
    (sensorOf : List Char → Option α) (spare : Option (UInt32 × α)) : List (UInt32 × α) :=
  match (filesIn t directory).indices label.pattern with
  | [] => spare.toList
  | indices => labelled t directory label sensorOf indices

theorem mem_sensorsOf_iff (numbered : label ≠ .name)
    (known : ∀ {word s}, sensorOf word = some s ↔ labelOf s = word) :
    (i, s) ∈ sensorsOf t directory label sensorOf spare ↔
      Names t directory label (labelOf s) i ∨
        IsUnlabelled t directory label ∧ spare = some (i, s) := by
  have labelled : (i, s) ∈ labelled t directory label sensorOf
      ((filesIn t directory).indices label.pattern) ↔ Names t directory label (labelOf s) i :=
    mem_labelled_indices_iff numbered known
  unfold sensorsOf IsUnlabelled
  split
  · rename_i unlabelled
    rw [unlabelled] at labelled
    rw [Option.mem_toList, ← labelled]
    exact ⟨fun h => .inr ⟨unlabelled, h⟩, fun h => (h.resolve_left List.not_mem_nil).2⟩
  · rename_i labels
    rw [labelled]
    exact ⟨.inl, fun h => h.resolve_right fun spared => labels spared.1⟩

theorem pairwise_sensorsOf :
    (sensorsOf t directory label sensorOf spare).Pairwise fun a b => a.1 < b.1 := by
  unfold sensorsOf
  split
  · cases spare with
    | none => exact List.Pairwise.nil
    | some entry => exact List.pairwise_singleton _ _
  · exact pairwise_labelled (FileSet.pairwise_indices _ _)

/-- Where a label can be read there are labels. -/
theorem Names.not_isUnlabelled {word : List Char} (named : Names t directory label word i)
    (numbered : label ≠ .name) : ¬ IsUnlabelled t directory label := by
  intro unlabelled
  have listed := named.mem_indices numbered
  unfold IsUnlabelled at unlabelled
  rw [unlabelled] at listed
  cases listed

/-- A sensor of a family has the least number whose label names it, or is the one to spare. -/
theorem indexOf_sensorsOf_iff [DecidableEq α] (numbered : label ≠ .name)
    (known : ∀ {word s}, sensorOf word = some s ↔ labelOf s = word) :
    indexOf (sensorsOf t directory label sensorOf spare) s = .ok i ↔
      IsFirst t directory label (labelOf s) i ∨
        IsUnlabelled t directory label ∧ spare = some (i, s) := by
  have mem : ∀ {k}, (k, s) ∈ sensorsOf t directory label sensorOf spare ↔
      Names t directory label (labelOf s) k ∨
        IsUnlabelled t directory label ∧ spare = some (k, s) := mem_sensorsOf_iff numbered known
  rw [indexOf_eq_ok_iff pairwise_sensorsOf]
  constructor
  · rintro ⟨listed, least⟩
    rcases mem.mp listed with named | spared
    · exact .inl ⟨named, fun k other => least k (mem.mpr (.inl other))⟩
    · exact .inr spared
  · rintro (⟨named, least⟩ | ⟨unlabelled, spared⟩)
    · refine ⟨mem.mpr (.inl named), fun k listed => ?_⟩
      rcases mem.mp listed with other | ⟨unlabelled, _⟩
      · exact least k other
      · exact absurd unlabelled (named.not_isUnlabelled numbered)
    · refine ⟨mem.mpr (.inr ⟨unlabelled, spared⟩), fun k listed => ?_⟩
      rcases mem.mp listed with other | ⟨_, same⟩
      · exact absurd unlabelled (other.not_isUnlabelled numbered)
      · cases spared.symm.trans same
        exact UInt32.le_refl _

/-- The sensors of a family are found by their labels. -/
theorem isLabelled_sensorsOf [DecidableEq α] (numbered : label ≠ .name)
    (known : ∀ {word s}, sensorOf word = some s ↔ labelOf s = word) (numberOf : α → Nat) :
    IsLabelled t directory label labelOf numberOf spare
      (indexOf (sensorsOf t directory label sensorOf spare))
      (kindIn (sensorsOf t directory label sensorOf spare) numberOf) where
  found _ _ := indexOf_sensorsOf_iff numbered known
  missing _ := indexOf_of_missing
  kind_of_index _ _ index := kindIn_of_mem pairwise_sensorsOf (mem_of_indexOf index) numberOf
  kind_of_label _ _ named :=
    kindIn_of_mem pairwise_sensorsOf ((mem_sensorsOf_iff numbered known).mpr (.inl named)) numberOf

/-- The kinds of a family: what its labels say, and zero where they name no sensor. -/
structure HasKinds (t : Tree) (directory : Path) (label : SensorFile) (labelOf : α → List Char)
    (numberOf : α → Nat) (kind : UInt32 → UInt64) : Prop where
  named : ∀ s i, Names t directory label (labelOf s) i → kind i = UInt64.ofNat (numberOf s)
  unnamed : ∀ i, (∀ s, ¬ Names t directory label (labelOf s) i) → kind i = 0

/-- A sensor to spare has the number zero, so that it does not show. -/
theorem hasKinds_sensorsOf (numbered : label ≠ .name)
    (known : ∀ {word s}, sensorOf word = some s ↔ labelOf s = word) {numberOf : α → Nat}
    (first : ∀ i s, spare = some (i, s) → numberOf s = 0) :
    HasKinds t directory label labelOf numberOf
      (kindIn (sensorsOf t directory label sensorOf spare) numberOf) where
  named _ _ named :=
    kindIn_of_mem pairwise_sensorsOf ((mem_sensorsOf_iff numbered known).mpr (.inl named)) numberOf
  unnamed i none := by
    rcases kindIn_cases pairwise_sensorsOf numberOf i with ⟨s, listed, kind⟩ | zero
    · rcases (mem_sensorsOf_iff numbered known).mp listed with named | ⟨_, spared⟩
      · exact absurd named (none s)
      · rw [kind, first i s spared]
        rfl
    · exact zero

end Family

theorem temperatures_ofDirectory (t : Tree) (directory : Path) :
    (ofDirectory t directory).temperatures =
      sensorsOf t directory .tempLabel TempSensor.ofLabel? (some (1, .edge)) := rfl

/-- A directory without labels for voltages has no voltages. -/
theorem voltages_ofDirectory (t : Tree) (directory : Path) :
    (ofDirectory t directory).voltages =
      sensorsOf t directory .voltLabel VoltSensor.ofLabel? none := by
  unfold ofDirectory sensorsOf
  dsimp only
  cases (filesIn t directory).indices SensorFile.voltLabel.pattern with
  | nil => rfl
  | cons _ _ => rfl

theorem kindOf_temperature (m : Monitor) :
    m.kindOf .temperature = kindIn m.temperatures TempSensor.number := rfl

theorem kindOf_voltage (m : Monitor) :
    m.kindOf .voltage = kindIn m.voltages VoltSensor.number := rfl

theorem hasKinds_ofDirectory (t : Tree) (directory : Path) :
    HasKinds t directory .tempLabel TempSensor.label TempSensor.number
        ((ofDirectory t directory).kindOf .temperature) ∧
      HasKinds t directory .voltLabel VoltSensor.label VoltSensor.number
        ((ofDirectory t directory).kindOf .voltage) := by
  rw [kindOf_temperature, kindOf_voltage, temperatures_ofDirectory, voltages_ofDirectory]
  constructor
  · refine hasKinds_sensorsOf (by decide) TempSensor.ofLabel?_eq_some_iff fun i s spared => ?_
    cases spared
    rfl
  · refine hasKinds_sensorsOf (by decide) VoltSensor.ofLabel?_eq_some_iff fun i s spared => ?_
    cases spared

/-- **The sensors of a directory are found by their labels**, temperatures and voltages alike. A
directory without labels for temperatures has one at the edge of the chip. -/
theorem isLabelled_ofDirectory (t : Tree) (directory : Path) :
    IsLabelled t directory .tempLabel TempSensor.label TempSensor.number (some (1, .edge))
        (ofDirectory t directory).temperatureIndex ((ofDirectory t directory).kindOf .temperature) ∧
      IsLabelled t directory .voltLabel VoltSensor.label VoltSensor.number none
        (ofDirectory t directory).voltageIndex ((ofDirectory t directory).kindOf .voltage) := by
  unfold temperatureIndex voltageIndex
  rw [kindOf_temperature, kindOf_voltage, temperatures_ofDirectory, voltages_ofDirectory]
  exact ⟨isLabelled_sensorsOf (by decide) TempSensor.ofLabel?_eq_some_iff TempSensor.number,
    isLabelled_sensorsOf (by decide) VoltSensor.ofLabel?_eq_some_iff VoltSensor.number⟩

end Monitor

end GpuManagement
