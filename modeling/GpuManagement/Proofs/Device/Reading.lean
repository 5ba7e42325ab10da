import GpuManagement.Proofs.Device.Capability
import GpuManagement.Proofs.Files.Read
import GpuManagement.Session.Reading

/-!
# Readings of a device

An attribute that was read, in whatever way, is a file that can be read (`Device.Reads`), and a
sensor file too. The laws go through the ways to read one by one and are used instead of them:
`reads_of_read` for the readings that look at an attribute, `isReadable_of_read` for those that look
at the files of a numbered sensor.

What can be read is listed. The listing that the capabilities of a card are worked out from has
every attribute that was read in the directory of the card (`Device.mem_files_of_reads`), and that
of its sensors every index that was read (`Monitor.mem_indices_of_isReadable`).
-/

namespace GpuManagement

namespace Device

/-- The attribute leads to a file that can be read. -/
def Reads (d : Device) (t : Tree) (a : Attribute) : Prop :=
  Files.IsReadable t (d.attributePath a .reading)

variable {d : Device} {t : Tree} {a : Attribute}

theorem reads_of_readNumber {value : UInt64} (h : d.readNumber t a = .ok value) : d.Reads t a := by
  unfold readNumber at h
  split at h
  · exact Files.isReadable_of_readWordAs h
  · exact Files.isReadable_of_readWordAs h
  · cases h

theorem reads_of_readToken {word : List Char} (h : d.readToken t a = .ok word) : d.Reads t a := by
  unfold readToken at h
  split at h
  · exact Files.isReadable_of_readWord h
  · cases h

theorem reads_of_readLine {line : List Char} (h : d.readLine t a = .ok line) : d.Reads t a :=
  Files.isReadable_of_readLine h

theorem reads_of_readLines {ls : List (List Char)} (h : d.readLines t a = .ok ls) :
    d.Reads t a := by
  unfold readLines at h
  split at h
  · exact Files.isReadable_of_readLines h
  · cases h

theorem reads_of_readBytes {limit : Nat} {b : Bytes} (h : d.readBytes t a limit = .ok b) :
    d.Reads t a := by
  unfold readBytes at h
  split at h
  · exact Files.isReadable_of_readBytes h
  · cases h

theorem reads_of_readHalf {value : UInt16} (h : d.readHalf t a = .ok value) : d.Reads t a := by
  obtain ⟨_, hn, _⟩ := Outcome.bind_eq_ok.mp h
  exact reads_of_readNumber hn

theorem reads_of_readPercentage {value : UInt32} (h : d.readPercentage t a = .ok value) :
    d.Reads t a := by
  obtain ⟨_, hn, _⟩ := Outcome.bind_eq_ok.mp h
  exact reads_of_readNumber hn

theorem reads_of_readTable {table : FrequencyTable} (h : d.readTable t a = .ok table) :
    d.Reads t a := by
  obtain ⟨_, hl, _⟩ := Outcome.bind_eq_ok.mp h
  exact reads_of_readLines hl

end Device

/-! ## Which files a reading looks at -/

namespace Reading

/-- The attribute that a reading looks at. -/
def attribute? : Reading → Option Attribute
  | deviceId => some .devId
  | vendorId => some .vendorId
  | subsystemId => some .subSysDevId
  | subsystemVendorId => some .subSysVendorId
  | uniqueId => some .uniqueId
  | serialNumber => some .serialNumber
  | vbiosVersion => some .vBiosVer
  | vramVendor => some .vramVendor
  | computePartition => some .computePartition
  | memoryPartition => some .memoryPartition
  | numaAffinity => some .numaNode
  | perfLevel => some .perfLevel
  | overdriveLevel => some .overDriveLevel
  | clockTable clock => some clock.tableAttribute
  | busTable => some .pcieClk
  | busTraffic => some .pcieThroughput
  | replayCount => some .pcieReplayCount
  | memoryTotal memory => some memory.totalAttribute
  | memoryUsed memory => some memory.usedAttribute
  | memoryBusy => some .memBusyPercent
  | busy => some .usage
  | retiredPages => some .memPageBad
  | firmwareVersion block => Attribute.firmwareBlocks[block.toNat]?
  | errorCount block => Attribute.ofErrorBlock? block
  | errorFeatures => some .errCntFeatures
  | xgmiErrors | xgmiReset => some .xgmiError
  | metrics | metricsTable => some .gpuMetrics
  | availableCounters _ => some .dfCountersAvailable
  | _ => none

/-- The files of a numbered sensor that a reading looks at, and the number of the sensor. -/
def numbered? : Reading → Option (List SensorFile × UInt32)
  | fanRpms fan => some ([.fanRpms], fan)
  | fanSpeed fan => some ([.fanSpeed], fan)
  | fanSpeedMax fan => some ([.maxFanSpeed], fan)
  | powerAverage sensor => some ([.powerAverage], sensor)
  | powerCap sensor => some ([.powerCap], sensor)
  | powerCapRange sensor => some ([.powerCapMax, .powerCapMin], sensor)
  | _ => none

end Reading

namespace Device

variable {d : Device} {t : Tree}

theorem monitor_of_requireMonitor {m : Monitor} (h : d.requireMonitor = .ok m) :
    d.monitor = some m := Outcome.ofOption_eq_ok.mp h

/-- A reading that succeeded has read its attribute. -/
theorem reads_of_read {r : Reading} {value : r.Value} (h : d.read t r = .ok value) {a : Attribute}
    (ha : r.attribute? = some a) : d.Reads t a := by
  cases r with
  | deviceId | vendorId | subsystemId | subsystemVendorId =>
    cases ha
    exact reads_of_readHalf h
  | uniqueId | replayCount | memoryTotal _ | memoryUsed _ | availableCounters _ =>
    cases ha
    exact reads_of_readNumber h
  | serialNumber | vbiosVersion | vramVendor | computePartition | memoryPartition =>
    cases ha
    exact reads_of_readToken h
  | memoryBusy | busy =>
    cases ha
    exact reads_of_readPercentage h
  | clockTable _ | busTable =>
    cases ha
    exact reads_of_readTable h
  | numaAffinity | busTraffic | errorFeatures =>
    cases ha
    obtain ⟨_, hl, _⟩ := Outcome.bind_eq_ok.mp h
    exact reads_of_readLine hl
  | perfLevel =>
    cases ha
    obtain ⟨_, hw, _⟩ := Outcome.bind_eq_ok.mp h
    exact reads_of_readToken hw
  | overdriveLevel | xgmiErrors | xgmiReset =>
    cases ha
    obtain ⟨_, hn, _⟩ := Outcome.bind_eq_ok.mp h
    exact reads_of_readNumber hn
  | retiredPages =>
    cases ha
    obtain ⟨_, hl, _⟩ := Outcome.bind_eq_ok.mp h
    exact reads_of_readLines hl
  | firmwareVersion block =>
    obtain ⟨a', ha', h⟩ := Outcome.bind_eq_ok.mp h
    cases (Outcome.ofOption_eq_ok.mp ha').symm.trans ha
    exact reads_of_readNumber h
  | errorCount block =>
    obtain ⟨a', ha', h⟩ := Outcome.bind_eq_ok.mp h
    obtain ⟨_, hl, _⟩ := Outcome.bind_eq_ok.mp h
    cases (Outcome.ofOption_eq_ok.mp ha').symm.trans ha
    exact reads_of_readLines hl
  | metricsTable =>
    cases ha
    obtain ⟨_, hb, _⟩ := Outcome.bind_eq_ok.mp h
    exact reads_of_readBytes hb
  | metrics =>
    cases ha
    obtain ⟨_, ht, _⟩ := Outcome.bind_eq_ok.mp h
    obtain ⟨_, hb, _⟩ := Outcome.bind_eq_ok.mp ht
    exact reads_of_readBytes hb
  | pciId | renderMinor | temperatureIndex _ | voltageIndex _ | temperature _ _ | voltage _ _
  | fanRpms _ | fanSpeed _ | fanSpeedMax _ | powerAverage _ | powerCap _ | powerCapRange _
  | maxPower => cases ha

/-- A reading without sign of a numbered sensor has read its file. -/
theorem isReadable_of_readSensor {file : SensorFile} {sensor : UInt32} {value : UInt64}
    (h : d.readSensor t file sensor = .ok value) :
    ∃ m, d.monitor = some m ∧ Files.IsReadable t (m.file file (sensorIndex sensor)) := by
  obtain ⟨m, hm, h⟩ := Outcome.bind_eq_ok.mp h
  exact ⟨m, monitor_of_requireMonitor hm, Files.isReadable_of_readWordAs h⟩

/-- A reading with a sign of a numbered sensor has read its file. -/
theorem isReadable_of_readSignedSensor {file : SensorFile} {sensor : UInt32} {value : Int}
    (h : d.readSignedSensor t file sensor = .ok value) :
    ∃ m, d.monitor = some m ∧ Files.IsReadable t (m.file file (sensorIndex sensor)) := by
  obtain ⟨m, hm, h⟩ := Outcome.bind_eq_ok.mp h
  exact ⟨m, monitor_of_requireMonitor hm, Files.isReadable_of_readWordAs h⟩

/-- A reading of a numbered sensor that succeeded has read all its files. -/
theorem isReadable_of_read {r : Reading} {value : r.Value} (h : d.read t r = .ok value)
    {files : List SensorFile} {sensor : UInt32} (hf : r.numbered? = some (files, sensor)) :
    ∃ m, d.monitor = some m ∧
      ∀ file ∈ files, Files.IsReadable t (m.file file (sensorIndex sensor)) := by
  have single : ∀ {file : SensorFile}, (∃ m, d.monitor = some m ∧
      Files.IsReadable t (m.file file (sensorIndex sensor))) → ∃ m, d.monitor = some m ∧
      ∀ f ∈ [file], Files.IsReadable t (m.file f (sensorIndex sensor)) := by
    rintro file ⟨m, hm, read⟩
    exact ⟨m, hm, fun f hf => List.mem_singleton.mp hf ▸ read⟩
  cases r with
  | fanRpms _ | fanSpeed _ =>
    cases hf
    exact single (isReadable_of_readSignedSensor h)
  | fanSpeedMax _ | powerAverage _ | powerCap _ =>
    cases hf
    exact single (isReadable_of_readSensor h)
  | powerCapRange _ =>
    cases hf
    obtain ⟨_, hmost, h⟩ := Outcome.bind_eq_ok.mp h
    obtain ⟨_, hleast, _⟩ := Outcome.bind_eq_ok.mp h
    obtain ⟨m, hm, most⟩ := isReadable_of_readSensor hmost
    obtain ⟨m', hm', least⟩ := isReadable_of_readSensor hleast
    cases hm.symm.trans hm'
    exact ⟨m, hm, List.forall_mem_cons.mpr ⟨most, List.forall_mem_singleton.mpr least⟩⟩
  | _ => cases hf

end Device

/-! ## What can be read is listed -/

/-- The file of an attribute is a name in the directory of the card, or in one of the two
directories below that are listed with it. -/
def Attribute.IsListed (a : Attribute) : Prop :=
  a.file.toList.head? ≠ some '/' ∧
    (Path.pieces a.file = [a.file] ∧ Path.IsName a.file ∨
      ∃ sub ∈ ["ras", "fw_version"], ∃ leaf ∈ Path.pieces a.file,
        Path.pieces a.file = [sub, leaf] ∧ sub ++ "/" ++ leaf = a.file ∧ Path.IsName leaf)

instance (a : Attribute) : Decidable a.IsListed := inferInstanceAs (Decidable (_ ∧ (_ ∨ _)))

/-- Every attribute is where the listing looks. -/
theorem Attribute.isListed (a : Attribute) : a.IsListed := by
  have all : ∀ a ∈ Attribute.all, a.IsListed := by decide +kernel
  exact all a a.mem_all

namespace Device

variable {d : Device} {t : Tree}

/-- An attribute that was read in the directory of the card is listed. -/
theorem mem_files_of_reads (plain : d.config.drmOverride = none) {a : Attribute}
    (h : d.Reads t a) : a.file ∈ (d.files t).names := by
  have path : d.attributePath a .reading = (d.directory.child "device").join a.file := by
    unfold attributePath Config.overrideFor
    rw [plain, ite_self]
  obtain ⟨node, found⟩ := Files.IsReadable.exists_find h
  rw [path] at found
  obtain ⟨relative, ⟨pieces, named⟩ | ⟨sub, hsub, leaf, _, pieces, whole, named⟩⟩ := a.isListed
  · rw [Path.join_of_pieces_one _ pieces relative] at found
    exact List.mem_append_left _ (Files.mem_listNames_of_find named found)
  · have notEmpty : ∀ sub ∈ ["ras", "fw_version"], sub ≠ "" := by decide
    rw [Path.join_of_pieces_two _ pieces (notEmpty sub hsub) relative] at found
    refine List.mem_append_right _ (List.mem_flatMap.mpr ⟨sub, hsub, ?_⟩)
    exact List.mem_map.mpr ⟨leaf, Files.mem_listNames_of_find named found, whole⟩

end Device

namespace Monitor

variable {m : Monitor} {t : Tree}

/-- Every file of a sensor names a family; only the name of the driver does not. -/
theorem isFamily_pattern {file : SensorFile} (h : file ≠ .name) :
    Text.IsFamily file.pattern.toList := by
  cases file with
  | name => exact absurd rfl h
  | temp metric => cases metric <;> decide +kernel
  | volt metric => cases metric <;> decide +kernel
  | _ => decide +kernel

/-- An index whose file can be read belongs to the family of the file. -/
theorem mem_indices_of_isReadable {file : SensorFile} (h : file ≠ .name) {index : UInt32}
    (read : Files.IsReadable t (m.file file index)) :
    index ∈ (m.files t).indices file.pattern := by
  have family := isFamily_pattern h
  obtain ⟨node, found⟩ := read.exists_find
  obtain ⟨c, hc, digit⟩ := Text.exists_isDigit_atIndex family index
  refine FileSet.mem_indices_of_atIndex family (Files.mem_listNames_of_find ?_ found)
  refine Path.isName_of_mem (c := c) (by rwa [String.toList_ofList]) ?_
  rintro rfl
  exact absurd digit (by decide)

end Monitor

end GpuManagement
