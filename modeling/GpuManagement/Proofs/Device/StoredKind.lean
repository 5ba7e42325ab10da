import GpuManagement.Proofs.Device.Label
import GpuManagement.Proofs.Topology.Inventory

/-!
# The kind of a stored sensor

For a family with labels a stored sensor is an index with a kind above it. The index is one that the
family has a label for, and the kind is told by the label when the device is opened. A label that
names no sensor, or that cannot be read, leaves the kind zero, and zero is the number of a sensor
too. So what is stored is true exactly where the label of the index names a sensor
(`Device.isStored_of_contains`), for indices that the field of sixteen bits holds.
-/

namespace GpuManagement

/-! ## What is stored for a row -/

namespace Requirement

variable {r : Requirement} {files : FileSet} {kindOf : SensorFamily → UInt32 → UInt64}
  {p : UInt32 → Prop} {list : Sensors} {packed : UInt64}

/-- What a row stores for an index. -/
def stored (r : Requirement) (kindOf : SensorFamily → UInt32 → UInt64) (i : UInt32) : UInt64 :=
  Sensors.pack (if r.family = .unlabelled then 0 else kindOf r.family i) i

theorem Lists.exists_index (lists : r.Lists kindOf p list) (here : packed ∈ list) :
    ∃ i, p i ∧ packed = r.stored kindOf i := by
  obtain ⟨indices, _, mem, rfl⟩ := lists
  obtain ⟨i, hi, rfl⟩ := List.mem_map.mp here
  exact ⟨i, (mem i).mp hi, rfl⟩

theorem VariantEntry.exists_index {file : String}
    (entry : r.VariantEntry kindOf files file (some list)) (here : packed ∈ list) :
    ∃ i, r.Permits files i ∧ packed = r.stored kindOf i := by
  unfold VariantEntry at entry
  split at entry
  · obtain ⟨_, e, lists⟩ := entry
    cases e
    obtain ⟨i, ⟨_, permitted⟩, e⟩ := lists.exists_index here
    exact ⟨i, permitted, e⟩
  · exact entry.2.exists_index here

/-- What stands below a call is stored for an index that the call permits. -/
theorem CallEntry.exists_index {ids : Variants} (entry : r.CallEntry kindOf files (some ids))
    {id : UInt64} (variant : (id, some list) ∈ ids) (here : packed ∈ list) :
    ∃ i, r.Permits files i ∧ packed = r.stored kindOf i := by
  unfold CallEntry at entry
  split at entry
  · obtain ⟨sensors, limit, e⟩ := entry
    obtain ⟨all, rfl, rfl⟩ := Option.map_eq_some_iff.mp e.symm
    cases List.mem_singleton.mp variant
    exact limit.2.exists_index here
  · obtain ⟨_, e, ascending, entries⟩ := entry
    cases e
    obtain ⟨_, _, _, described⟩ := (entries _ _).mp ((Table.mem_iff_get? ascending).mp variant)
    exact described.exists_index here

/-- The row for temperatures. -/
def temperature : Requirement :=
  ⟨"rsmi_dev_temp_metric_get", ["temp#_label"], numbered temperatureFiles, .temperature⟩

/-- The row for voltages. -/
def voltage : Requirement :=
  ⟨"rsmi_dev_volt_metric_get", ["in#_label"], numbered voltageFiles, .voltage⟩

theorem temperature_mem_ofMonitor : temperature ∈ ofMonitor := by decide +kernel

theorem voltage_mem_ofMonitor : voltage ∈ ofMonitor := by decide +kernel

theorem nodup_variants_of_mem_ofMonitor {r : Requirement} (row : r ∈ ofMonitor) :
    (r.variants.map Prod.fst).Nodup := by
  have all : ∀ r ∈ ofMonitor, (r.variants.map Prod.fst).Nodup := by decide +kernel
  exact all r row

end Requirement

namespace Device

variable {d : Device} {m : Monitor} {t : Tree}

/-- The calls for sensors are none of those for attributes, so that the map has what the row for
sensors says. -/
theorem get?_capabilities_of_mem_ofMonitor (hm : d.monitor = some m) {r : Requirement}
    (row : r ∈ Requirement.ofMonitor) (t : Tree) :
    (d.capabilities t).get? r.call = r.support? (m.files t) m.kindOf := by
  have other : ∀ r ∈ Requirement.ofMonitor, ∀ own ∈ Requirement.ofDevice, own.call ≠ r.call := by
    decide +kernel
  have calls : (Requirement.ofMonitor.map Requirement.call).Nodup := by decide +kernel
  have ids := fun r => Requirement.nodup_variants_of_mem_ofMonitor (r := r)
  have absent : (Capabilities.derive Requirement.ofDevice (d.files t) fun _ _ => 0).get? r.call =
      none := by
    rw [← Option.not_isSome_iff_eq_none, Capabilities.isSome_get?_derive_iff]
    rintro ⟨own, listed, same, _⟩
    exact other r row own listed same
  unfold capabilities
  rw [hm]
  dsimp only
  rw [Capabilities.get?_merge, absent, Option.none_or]
  refine Option.ext fun entry => ?_
  rw [Capabilities.get?_derive_iff_of_mem calls ids row,
    Requirement.support?_eq_some_iff (ids r row)]

theorem isDerived_capabilities (hm : d.monitor = some m) (t : Tree) :
    (d.capabilities t).IsDerived := by
  unfold capabilities
  rw [hm]
  exact .merge (.derive _ _ _) (.derive _ _ _)

/-- What is stored for a row for sensors is stored for an index that the row permits. -/
theorem exists_index_of_contains (hm : d.monitor = some m) {r : Requirement}
    (row : r ∈ Requirement.ofMonitor) {id packed : UInt64}
    (contained : (d.capabilities t).Contains [.call r.call, .number id, .number packed]) :
    ∃ i, r.Permits (m.files t) i ∧ packed = r.stored m.kindOf i := by
  have ids := Requirement.nodup_variants_of_mem_ofMonitor row
  cases contained with
  | sensor call variant here =>
    have found := (Table.mem_iff_get? (isDerived_capabilities hm t).isOrdered.calls).mp call
    rw [get?_capabilities_of_mem_ofMonitor hm row] at found
    have entry := ((Requirement.support?_eq_some_iff ids).mp found).2
    exact entry.exists_index variant here

end Device

/-! ## A kind above an index -/

/-- Where both fit, a packed sensor is its kind followed by sixteen bits for its index. -/
theorem Sensors.toNat_pack {kind : UInt64} {i : UInt32} (few : kind.toNat < 2 ^ 48)
    (small : i.toNat < 0x10000) : (pack kind i).toNat = kind.toNat * 0x10000 + i.toNat := by
  have joined := Nat.shiftLeft_add_eq_or_of_lt (show i.toNat < 2 ^ 16 from small) kind.toNat
  have fits : kind.toNat <<< 16 < 2 ^ 64 := by
    rw [Nat.shiftLeft_eq]
    omega
  unfold pack
  rw [UInt64.toNat_or, UInt64.toNat_shiftLeft, UInt32.toNat_toUInt64]
  change (kind.toNat <<< 16) % 2 ^ 64 ||| i.toNat = _
  rw [Nat.mod_eq_of_lt fits, ← joined, Nat.shiftLeft_eq]

/-- The index of a stored sensor is told by its lower sixteen bits. -/
theorem Sensors.toNat_index (packed : UInt64) :
    (index packed).toNat = packed.toNat % 0x10000 := by
  unfold index
  rw [UInt64.toNat_and]
  exact Nat.and_two_pow_sub_one_eq_mod _ 16

namespace Monitor

variable {α : Type} {m : Monitor} {t u : Tree} {label : SensorFile} {labelOf : α → List Char}
  {numberOf : α → Nat} {kind : UInt32 → UInt64} {i : UInt32}

/-- What a stored sensor says is true: the label of its index names the sensor of its kind. -/
def IsTrue (t : Tree) (directory : Path) (label : SensorFile) (labelOf : α → List Char)
    (numberOf : α → Nat) (packed : UInt64) : Prop :=
  ∃ s, numberOf s = packed.toNat / 0x10000 ∧
    Names t directory label (labelOf s) (UInt32.ofNat (packed.toNat % 0x10000))

/-- What is stored comes from an index that the family has a label for now. It is true when the
label named a sensor as the device was opened, on the tree `u`, and says zero otherwise. -/
structure IsStored (m : Monitor) (t u : Tree) (label : SensorFile) (labelOf : α → List Char)
    (numberOf : α → Nat) (packed : UInt64) (i : UInt32) : Prop where
  listed : i ∈ (m.files t).indices label.pattern
  index : packed.toNat % 0x10000 = i.toNat % 0x10000
  truth : i.toNat < 0x10000 → (IsTrue u m.directory label labelOf numberOf packed ↔
    ∃ s, Names u m.directory label (labelOf s) i)
  unnamed : i.toNat < 0x10000 → (∀ s, ¬ Names u m.directory label (labelOf s) i) →
    packed.toNat / 0x10000 = 0

/-- An index below the kind that its label gives is stored so. -/
theorem isStored_pack (kinds : HasKinds u m.directory label labelOf numberOf kind)
    (few : ∀ s, numberOf s < 2 ^ 48) (listed : i ∈ (m.files t).indices label.pattern) :
    m.IsStored t u label labelOf numberOf (Sensors.pack (kind i) i) i := by
  have numbered : ∀ s, Names u m.directory label (labelOf s) i → (kind i).toNat = numberOf s := by
    intro s named
    rw [kinds.named s i named]
    exact UInt64.toNat_ofNat_of_lt' (Nat.lt_trans (few s) (by decide))
  have limited : (kind i).toNat < 2 ^ 48 := by
    by_cases named : ∃ s, Names u m.directory label (labelOf s) i
    · obtain ⟨s, named⟩ := named
      exact numbered s named ▸ few s
    · rw [kinds.unnamed i (not_exists.mp named)]
      decide
  refine ⟨listed, ?_, fun small => ?_, fun small none => ?_⟩
  · rw [← Sensors.toNat_index, Sensors.toNat_index_pack]
  · have whole := Sensors.toNat_pack limited small
    have index : UInt32.ofNat ((Sensors.pack (kind i) i).toNat % 0x10000) = i := by
      rw [whole, Nat.mul_add_mod_self_right, Nat.mod_eq_of_lt small, UInt32.ofNat_toNat]
    unfold IsTrue
    rw [index]
    constructor
    · rintro ⟨s, _, named⟩
      exact ⟨s, named⟩
    · rintro ⟨s, named⟩
      refine ⟨s, ?_, named⟩
      rw [whole, numbered s named]
      omega
  · rw [Sensors.toNat_pack limited small, kinds.unnamed i none]
    change (0 * 0x10000 + i.toNat) / 0x10000 = 0
    omega

end Monitor

namespace Device

variable {d : Device} {m : Monitor} {u : Tree}

/-- **What is stored for temperatures and voltages is true where a label says so.** -/
theorem isStored_of_contains (hm : d.monitor = some m)
    (opened : m = Monitor.ofDirectory u m.directory) (t : Tree) (id packed : UInt64) :
    ((d.capabilities t).Contains
        [.call "rsmi_dev_temp_metric_get", .number id, .number packed] →
      ∃ i, m.IsStored t u .tempLabel TempSensor.label TempSensor.number packed i) ∧
    ((d.capabilities t).Contains
        [.call "rsmi_dev_volt_metric_get", .number id, .number packed] →
      ∃ i, m.IsStored t u .voltLabel VoltSensor.label VoltSensor.number packed i) := by
  obtain ⟨temperatures, voltages⟩ := Monitor.hasKinds_ofDirectory u m.directory
  rw [← opened] at temperatures voltages
  constructor
  · intro contained
    obtain ⟨i, permitted, rfl⟩ :=
      exists_index_of_contains hm Requirement.temperature_mem_ofMonitor contained
    have listed := permitted "temp#_label" List.mem_cons_self (by decide)
    refine ⟨i, Monitor.isStored_pack temperatures (fun s => ?_) listed⟩
    cases s <;> decide
  · intro contained
    obtain ⟨i, permitted, rfl⟩ :=
      exists_index_of_contains hm Requirement.voltage_mem_ofMonitor contained
    have listed := permitted "in#_label" List.mem_cons_self (by decide)
    refine ⟨i, Monitor.isStored_pack voltages (fun s => ?_) listed⟩
    cases s
    decide

/-! ### A label that names no sensor -/

/-- A card with two temperatures, of which the second has a label that is not known. -/
def hotspotSystem : Tree :=
  Inventory.cardSystem [("hwmon", .directory [("hwmon0", .directory [
    ("name", .file (Bytes.ofText "amdgpu\n")), ("temp1_label", .file (Bytes.ofText "edge\n")),
    ("temp1_input", .file (Bytes.ofText "40000\n")),
    ("temp2_label", .file (Bytes.ofText "hotspot\n")),
    ("temp2_input", .file (Bytes.ofText "50000\n"))])])]

/-- The directory of its sensors. -/
def hotspotDirectory : Path := .root ["drm", "card0", "device", "hwmon", "hwmon0"]

/-- Both temperatures are stored with the kind zero. -/
theorem exists_hotspot :
    ∃ v d m, Inventory.discover hotspotSystem Inventory.sampleConfig ⟨1⟩ = .ok v ∧
      v.device 0 = .ok d ∧ d.monitor = some m ∧ m.directory = hotspotDirectory ∧
      m = Monitor.ofDirectory hotspotSystem m.directory ∧
      ∀ packed ∈ [1, 2], (d.capabilities hotspotSystem).Contains
        [.call "rsmi_dev_temp_metric_get", .number 0, .number packed] := by
  have found : (do
      let v ← Inventory.discover hotspotSystem Inventory.sampleConfig ⟨1⟩
      let d ← v.device 0
      let m ← d.requireMonitor
      .ok (decide (m.directory = hotspotDirectory ∧
        m = Monitor.ofDirectory hotspotSystem m.directory ∧
        Requirement.temperature.support? (m.files hotspotSystem) m.kindOf =
          some (some [(0, some [1, 2])]))) : Outcome Bool).toOption = some true := by
    decide +kernel
  obtain ⟨v, opened, found⟩ := Outcome.bind_eq_ok.mp (Outcome.toOption_eq_some.mp found)
  obtain ⟨d, hd, found⟩ := Outcome.bind_eq_ok.mp found
  obtain ⟨m, hm, found⟩ := Outcome.bind_eq_ok.mp found
  obtain ⟨directory, labelled, stored⟩ := of_decide_eq_true (Except.ok.inj found)
  have present := monitor_of_requireMonitor hm
  rw [← get?_capabilities_of_mem_ofMonitor present Requirement.temperature_mem_ofMonitor] at stored
  exact ⟨v, d, m, opened, hd, present, directory, labelled, fun packed here =>
    .sensor (Table.mem_of_get? stored) List.mem_cons_self here⟩

/-- What is stored for the card comes from its labels, the unknown one included. -/
theorem isStored_hotspotSystem :
    ∃ (d : Device) (m : Monitor), d.monitor = some m ∧
      m = Monitor.ofDirectory hotspotSystem m.directory ∧
      ∀ packed ∈ [1, 2], ∃ i, m.IsStored hotspotSystem hotspotSystem .tempLabel TempSensor.label
        TempSensor.number packed i := by
  obtain ⟨_, d, m, _, _, hm, _, opened, stored⟩ := exists_hotspot
  exact ⟨d, m, hm, opened, fun packed here =>
    (isStored_of_contains hm opened hotspotSystem 0 packed).1 (stored packed here)⟩

/-- The second temperature is stored as one at the edge, which its label does not say. -/
theorem not_isTrue_hotspot :
    ∃ v d m, Inventory.discover hotspotSystem Inventory.sampleConfig ⟨1⟩ = .ok v ∧
      v.device 0 = .ok d ∧ d.monitor = some m ∧
      (d.capabilities hotspotSystem).Contains
        [.call "rsmi_dev_temp_metric_get", .number 0, .number 2] ∧
      ¬ Monitor.IsTrue hotspotSystem m.directory .tempLabel TempSensor.label TempSensor.number
        2 := by
  obtain ⟨v, d, m, opened, hd, hm, directory, _, stored⟩ := exists_hotspot
  refine ⟨v, d, m, opened, hd, hm, stored 2 (by decide), ?_⟩
  rintro ⟨s, _, named⟩
  have label : Files.readWord hotspotSystem (Monitor.fileIn hotspotDirectory .tempLabel 2) =
      .ok "hotspot".toList := by decide +kernel
  rw [directory] at named
  have same : s.label = "hotspot".toList := Except.ok.inj (named.symm.trans label)
  cases s <;> revert same <;> decide

end Device

end GpuManagement
