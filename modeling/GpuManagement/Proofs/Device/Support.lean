import GpuManagement.Proofs.Device.Reading

/-!
# Readings and capabilities of a device

What a device supports is worked out from listings, and what it reads from paths and labels. The two
agree for a device that was made from the tree it is asked about (`IsPlain`): what was read has a row
of which every requirement is met, whether the row asks for an attribute (`isSupported_of_reads`),
for the files of a numbered sensor (`isSupported_of_isReadable`), or for a label and one of several
files of the sensor it names (`isSupported_of_label`).

There is one exception. A directory of sensors without labels for temperatures is taken to have one
at the edge of the chip, and is read so, while the row asks for labels
(`get?_capabilities_unlabelled`).
-/

namespace GpuManagement

/-! ## Indices that labels give -/

namespace Monitor

/-- A sensor with an index is one of those in the directory. -/
theorem mem_of_indexOf {α : Type} [DecidableEq α] {sensors : List (UInt32 × α)} {sensor : α}
    {index : UInt32} (h : indexOf sensors sensor = .ok index) : (index, sensor) ∈ sensors := by
  obtain ⟨⟨i, s⟩, found, rfl⟩ := Option.map_eq_some_iff.mp (Outcome.ofOption_eq_ok.mp h)
  have same : s = sensor := by simpa using List.find?_some found
  exact same ▸ List.mem_of_find?_eq_some found

/-- A sensor that no label names is unsupported. -/
theorem indexOf_eq_error_iff {α : Type} [DecidableEq α] {sensors : List (UInt32 × α)} {sensor : α}
    {e : Error} :
    indexOf sensors sensor = .error e ↔
      (∀ index, (index, sensor) ∉ sensors) ∧ e = .status .notSupported := by
  unfold indexOf
  rw [Outcome.ofOption_eq_error, Option.map_eq_none_iff, List.find?_eq_none]
  refine and_congr_left' ⟨fun none index there => none _ there (decide_eq_true rfl), ?_⟩
  rintro none ⟨index, other⟩ there same
  cases of_decide_eq_true same
  exact none index there

/-- A label names an index of its family. -/
theorem mem_of_mem_labelled {α : Type} {t : Tree} {directory : Path} {label : SensorFile}
    {sensorOf : List Char → Option α} {indices : List UInt32} {index : UInt32} {sensor : α}
    (h : (index, sensor) ∈ labelled t directory label sensorOf indices) : index ∈ indices := by
  obtain ⟨i, hi, h⟩ := List.mem_filterMap.mp h
  split at h
  · obtain ⟨_, _, e⟩ := Option.map_eq_some_iff.mp h
    cases e
    exact hi
  · cases h

variable {t : Tree} {directory : Path}

/-- Where there are labels a temperature has the index of one. -/
theorem mem_indices_of_temperatureIndex {sensor : TempSensor} {index : UInt32}
    (h : (ofDirectory t directory).temperatureIndex sensor = .ok index) :
    (filesIn t directory).indices "temp#_label" = [] ∧ sensor = .edge ∨
      index ∈ (filesIn t directory).indices "temp#_label" := by
  have mem : (index, sensor) ∈ (ofDirectory t directory).temperatures := mem_of_indexOf h
  unfold ofDirectory at mem
  simp only at mem
  split at mem
  · rename_i none
    cases List.mem_singleton.mp mem
    exact .inl ⟨none, rfl⟩
  · exact .inr (mem_of_mem_labelled mem)

/-- A voltage has the index of a label. -/
theorem mem_indices_of_voltageIndex {sensor : VoltSensor} {index : UInt32}
    (h : (ofDirectory t directory).voltageIndex sensor = .ok index) :
    index ∈ (filesIn t directory).indices "in#_label" :=
  mem_of_mem_labelled (mem_of_indexOf h : (index, sensor) ∈ (ofDirectory t directory).voltages)

end Monitor

/-- The file is enough for the row: nothing else is mandatory, and some variant needs it if there are
variants. -/
def Requirement.IsMetBy (r : Requirement) (file : String) : Prop :=
  (∀ other ∈ r.mandatory, other = file) ∧
    (r.variants = [] ∨ ∃ variant ∈ r.variants, variant.2 = file)

/-- A row for one attribute asks for its file. -/
theorem Requirement.isMetBy_ofAttributes (call : String) (a : Attribute) :
    (ofAttributes call [a]).IsMetBy a.file := ⟨List.forall_mem_singleton.mpr rfl, .inl rfl⟩

/-- A row that asks for no attribute is supported. -/
theorem Requirement.isSupported_ofAttributes_nil (call : String) (files : FileSet) :
    (ofAttributes call []).IsSupported files :=
  isSupported_of_present (fun _ hm => (by cases hm)) (fun _ hm => (by cases hm)) (.inl rfl)

/-- A row of variants asks for the file of one of them. -/
theorem Requirement.isMetBy_ofVariants {call : String} {variants : List (UInt64 × Attribute)}
    {id : UInt64} {a : Attribute} (h : (id, a) ∈ variants) :
    (ofVariants call [] variants).IsMetBy a.file :=
  ⟨fun _ hm => (by cases hm), .inr ⟨(id, a.file), List.mem_map.mpr ⟨(id, a), h, rfl⟩, rfl⟩⟩

namespace Device

/-- The device was made from the tree, and no directory stands in for that of the card. -/
def IsPlain (d : Device) (t : Tree) : Prop :=
  ∃ (config : Config) (card : Path) (number : UInt32) (address : BusAddress) (node : Node),
    config.drmOverride = none ∧ d = ofCard t config card number address node

variable {d : Device} {t : Tree}

theorem IsPlain.drmOverride (plain : d.IsPlain t) : d.config.drmOverride = none := by
  obtain ⟨config, card, number, address, node, none, rfl⟩ := plain
  exact none

/-- The sensors of such a device are those in their directory. -/
theorem IsPlain.monitor (plain : d.IsPlain t) {m : Monitor} (h : d.monitor = some m) :
    m = Monitor.ofDirectory t m.directory := by
  obtain ⟨config, card, number, address, node, _, rfl⟩ := plain
  obtain ⟨directory, _, rfl⟩ := Option.map_eq_some_iff.mp h
  rfl

/-- A call is supported when a row of one of the two tables is. -/
theorem isSome_capabilities_iff {name : String} :
    ((d.capabilities t).get? name).isSome = true ↔
      (∃ r ∈ Requirement.ofDevice, r.call = name ∧ r.IsSupported (d.files t)) ∨
        ∃ m, d.monitor = some m ∧
          ∃ r ∈ Requirement.ofMonitor, r.call = name ∧ r.IsSupported (m.files t) := by
  unfold capabilities
  cases d.monitor with
  | none =>
    simp only [Capabilities.isSome_get?_derive_iff, reduceCtorEq, false_and, exists_false, or_false]
  | some m =>
    simp only [Capabilities.isSome_get?_merge_iff, Capabilities.isSome_get?_derive_iff,
      Option.some.injEq, exists_eq_left']

/-! ## Rows for readings -/

/-- No attribute stands for a family of sensors. -/
theorem isSensorFile_attribute (a : Attribute) : isSensorFile a.file = false := by
  have all : ∀ a ∈ Attribute.all, isSensorFile a.file = false := by decide +kernel
  exact all a a.mem_all

/-- A row that one attribute is enough for, which was read, is supported. -/
theorem isSupported_of_reads (plain : d.IsPlain t) {a : Attribute} (read : d.Reads t a)
    {r : Requirement} (enough : r.IsMetBy a.file) : r.IsSupported (d.files t) := by
  obtain ⟨mandatory, variants⟩ := enough
  have listed := mem_files_of_reads plain.drmOverride read
  refine Requirement.isSupported_of_present ?_ ?_ ?_
  · intro file hm
    rw [mandatory file hm]
    exact isSensorFile_attribute a
  · intro file hm
    rwa [mandatory file hm]
  · refine variants.imp_right ?_
    rintro ⟨variant, hm, e⟩
    refine ⟨variant, hm, ?_⟩
    unfold Requirement.Offers
    rw [e, isSensorFile_attribute a]
    exact listed

/-- A row that asks for files of one sensor, which were read, is supported. -/
theorem isSupported_of_isReadable {m : Monitor} {index : UInt32} {call : String}
    {files : List SensorFile} (named : .name ∉ files)
    (read : ∀ file ∈ files, Files.IsReadable t (m.file file index)) :
    (Requirement.plain call (files.map SensorFile.pattern)).IsSupported (m.files t) := by
  have other : ∀ file ∈ files, file ≠ .name := fun file hf e => named (e ▸ hf)
  refine Requirement.isSupported_of_index index ?_ ?_ (.inl rfl)
  · intro pattern hm
    obtain ⟨file, hf, rfl⟩ := List.mem_map.mp hm
    exact (Monitor.isFamily_pattern (other file hf)).isIndexed
  · intro pattern hm
    obtain ⟨file, hf, rfl⟩ := List.mem_map.mp hm
    exact Monitor.mem_indices_of_isReadable (other file hf) (read file hf)

/-- A row that asks for a label, and for one of several files of the sensor with the label, is
supported when both are there. -/
theorem isSupported_of_label {m : Monitor} {index : UInt32} {call : String} {label : SensorFile}
    {files : List String} {family : SensorFamily} (labelled : label ≠ .name)
    (there : index ∈ (m.files t).indices label.pattern) {file : SensorFile} (named : file ≠ .name)
    (offered : file.pattern ∈ files) (read : Files.IsReadable t (m.file file index)) :
    Requirement.IsSupported ⟨call, [label.pattern], Requirement.numbered files, family⟩
      (m.files t) := by
  obtain ⟨place, hp⟩ := List.mem_iff_getElem?.mp offered
  have variant : (UInt64.ofNat place, file.pattern) ∈ Requirement.numbered files :=
    List.mem_map.mpr ⟨(file.pattern, place), List.mem_zipIdx_iff_getElem?.mpr hp, rfl⟩
  refine Requirement.isSupported_of_index index ?_ ?_ (.inr ⟨_, variant, ?_, ?_⟩)
  · exact List.forall_mem_singleton.mpr (Monitor.isFamily_pattern labelled).isIndexed
  · exact List.forall_mem_singleton.mpr there
  · exact (Monitor.isFamily_pattern named).isIndexed
  · exact Monitor.mem_indices_of_isReadable named read

/-- What stands in a place of a list is in the list. -/
theorem getD_mem {files : List String} {place : Nat} (h : place < files.length) (default : String) :
    files.getD place default ∈ files := by
  rw [List.getD_eq_getElem?_getD, List.getElem?_eq_getElem h, Option.getD_some]
  exact List.getElem_mem h

/-- A temperature that was read is supported where a label gave its index. -/
theorem exists_row_of_temperature {m : Monitor} {index : UInt32} {metric : TempMetric}
    (there : index ∈ (m.files t).indices "temp#_label")
    (read : Files.IsReadable t (m.file (.temp metric) index)) :
    ∃ r ∈ Requirement.ofMonitor, r.call = "rsmi_dev_temp_metric_get" ∧
      r.IsSupported (m.files t) := by
  have offered : (SensorFile.temp metric).pattern ∈ Requirement.temperatureFiles :=
    getD_mem (by cases metric <;> decide) ""
  have supported : Requirement.IsSupported ⟨"rsmi_dev_temp_metric_get", [SensorFile.tempLabel.pattern],
      Requirement.numbered Requirement.temperatureFiles, .temperature⟩ (m.files t) :=
    isSupported_of_label (by decide) there (fun e => (by cases e)) offered read
  refine ⟨_, ?_, rfl, supported⟩
  simp only [Requirement.ofMonitor, SensorFile.pattern, List.mem_cons, true_or, or_true]

/-- A voltage that was read is supported where a label gave its index. -/
theorem exists_row_of_voltage {m : Monitor} {index : UInt32} {metric : VoltMetric}
    (there : index ∈ (m.files t).indices "in#_label")
    (read : Files.IsReadable t (m.file (.volt metric) index)) :
    ∃ r ∈ Requirement.ofMonitor, r.call = "rsmi_dev_volt_metric_get" ∧
      r.IsSupported (m.files t) := by
  have offered : (SensorFile.volt metric).pattern ∈ Requirement.voltageFiles :=
    getD_mem (by cases metric <;> decide) ""
  have supported : Requirement.IsSupported ⟨"rsmi_dev_volt_metric_get", [SensorFile.voltLabel.pattern],
      Requirement.numbered Requirement.voltageFiles, .voltage⟩ (m.files t) :=
    isSupported_of_label (by decide) there (fun e => (by cases e)) offered read
  refine ⟨_, ?_, rfl, supported⟩
  simp only [Requirement.ofMonitor, SensorFile.pattern, List.mem_cons, true_or, or_true]

/-- A device without labels for temperatures supports no temperatures. -/
theorem get?_capabilities_unlabelled {m : Monitor} (hm : d.monitor = some m)
    (unlabelled : (m.files t).indices "temp#_label" = []) :
    (d.capabilities t).get? "rsmi_dev_temp_metric_get" = none := by
  rw [← Option.not_isSome_iff_eq_none, isSome_capabilities_iff]
  rintro (⟨r, hr, call, _⟩ | ⟨m', hm', r, hr, call, supported⟩)
  · have other : ∀ r ∈ Requirement.ofDevice, r.call ≠ "rsmi_dev_temp_metric_get" := by
      decide +kernel
    exact other r hr call
  · have asks : ∀ r ∈ Requirement.ofMonitor, r.call = "rsmi_dev_temp_metric_get" →
        "temp#_label" ∈ r.mandatory := by decide +kernel
    have labelled := asks r hr call
    obtain ⟨i, permitted⟩ := supported.permits ⟨_, labelled, by decide⟩
    have there := permitted _ labelled (by decide)
    cases hm.symm.trans hm'
    rw [unlabelled] at there
    cases there

end Device

end GpuManagement
