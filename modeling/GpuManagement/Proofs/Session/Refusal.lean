import GpuManagement.Proofs.Files.Obstacle
import GpuManagement.Proofs.Session.Basic

/-!
# Why a number cannot be read

The readings of a single number take it from one file each, in five ways: a hexadecimal or a decimal
word of an attribute, a word of a sensor file with a sign or without, the first line of an attribute,
and the last field of the first line. `IsBackedBy` names the file of a reading, and
`read_failsWith` says that an obstacle there is told by one status, whatever the way of reading.

One reading does not keep to this. The mask of the blocks that count errors is looked for in the
last field of a line that may be blank, and so a blank file is told as unexpected data
(`read_blankFeatures`).
-/

namespace GpuManagement

open Files (Obstacle)

/-- The readings of a single number from a single file. -/
def Reading.isNumeric : Reading → Bool
  | deviceId | vendorId | subsystemId | subsystemVendorId | uniqueId | overdriveLevel | busy
  | memoryBusy | memoryTotal _ | memoryUsed _ | replayCount | firmwareVersion _ | errorFeatures
  | numaAffinity | xgmiErrors | fanRpms _ | fanSpeed _ | fanSpeedMax _ | powerAverage _
  | powerCap _ | temperature _ _ | voltage _ _ => true
  | _ => false

namespace Device

/-- The file that a reading of a device takes its value from: that of its attribute, or that of a
sensor with a number, or of the sensor that a label names. -/
inductive IsBackedBy (d : Device) : Reading → Path → Prop where
  | attributeFile {r : Reading} {a : Attribute} (looked : r.attribute? = some a) :
      IsBackedBy d r (d.attributePath a .reading)
  | sensorFile {r : Reading} {file : SensorFile} {sensor : UInt32} {m : Monitor}
      (looked : r.numbered? = some ([file], sensor)) (sensors : d.monitor = some m) :
      IsBackedBy d r (m.file file (sensorIndex sensor))
  | temperatureFile {sensor : TempSensor} {metric : TempMetric} {index : UInt32} {m : Monitor}
      (sensors : d.monitor = some m) (labelled : m.temperatureIndex sensor = .ok index) :
      IsBackedBy d (.temperature sensor metric) (m.file (.temp metric) index)
  | voltageFile {sensor : VoltSensor} {metric : VoltMetric} {index : UInt32} {m : Monitor}
      (sensors : d.monitor = some m) (labelled : m.voltageIndex sensor = .ok index) :
      IsBackedBy d (.voltage sensor metric) (m.file (.volt metric) index)

/-- The status by which a reading tells of an obstacle. -/
def refusal (r : Reading) (o : Obstacle) : Status :=
  if r = .errorFeatures ∧ o = .blank then .unexpectedData else o.status

variable {d : Device} {t : Tree} {a : Attribute} {o : Obstacle}

/-! ## The ways to read -/

theorem readNumber_failsWith (numeric : a.kind = .hexadecimal ∨ a.kind = .decimal)
    (there : o.At t (d.attributePath a .reading)) : (d.readNumber t a).FailsWith o.status := by
  unfold readNumber
  rcases numeric with kind | kind
  · rw [kind]
    exact Files.readWordAs_failsWith there
  · rw [kind]
    exact Files.readWordAs_failsWith there

theorem readNumaAffinity_failsWith (there : o.At t (d.attributePath .numaNode .reading)) :
    (d.readNumaAffinity t).FailsWith o.status := by
  by_cases blank : o = .blank
  · subst blank
    obtain ⟨line, hl, blank⟩ := Files.readLine_of_blank there
    refine Outcome.FailsWith.ok_bind hl ?_
    simp only [Text.trim_of_allBlank blank]
    exact ⟨_, rfl, rfl⟩
  · exact (Files.readLine_failsWith there blank).bind _

theorem readErrorFeatures_failsWith (there : o.At t (d.attributePath .errCntFeatures .reading)) :
    (d.read t .errorFeatures).FailsWith (refusal .errorFeatures o) := by
  by_cases blank : o = .blank
  · subst blank
    obtain ⟨line, hl, blank⟩ := Files.readLine_of_blank there
    refine Outcome.FailsWith.ok_bind hl ?_
    rw [featureMask_of_allBlank blank]
    exact ⟨_, rfl, rfl⟩
  · have plain : refusal .errorFeatures o = o.status := if_neg fun h => blank h.2
    rw [plain]
    exact (Files.readLine_failsWith there blank).bind _

/-- The firmware blocks are read as hexadecimal numbers. -/
theorem kind_of_firmwareBlock {block : Nat} (h : Attribute.firmwareBlocks[block]? = some a) :
    a.kind = .hexadecimal := by
  have all : ∀ a ∈ Attribute.firmwareBlocks, a.kind = .hexadecimal := by decide
  exact all a (List.mem_of_getElem? h)

/-! ## Each reading -/

/-- A reading of a single number from an attribute fails by the obstacle there. -/
theorem read_failsWith_of_attribute {r : Reading} (numeric : r.isNumeric = true)
    (looked : r.attribute? = some a) (there : o.At t (d.attributePath a .reading)) :
    (d.read t r).FailsWith (refusal r o) := by
  by_cases features : r = .errorFeatures
  · subst features
    cases looked
    exact readErrorFeatures_failsWith there
  · have plain : refusal r o = o.status := if_neg fun h => features h.1
    rw [plain]
    cases r with
    | deviceId | vendorId | subsystemId | subsystemVendorId | overdriveLevel | busy | memoryBusy
    | xgmiErrors =>
      cases looked
      exact (readNumber_failsWith (by decide) there).bind _
    | uniqueId | replayCount =>
      cases looked
      exact readNumber_failsWith (by decide) there
    | memoryTotal memory | memoryUsed memory =>
      cases looked
      exact readNumber_failsWith (by cases memory <;> decide) there
    | firmwareVersion block =>
      have found : Attribute.firmwareBlocks[block.toNat]? = some a := looked
      refine Outcome.FailsWith.ok_bind (Outcome.ofOption_eq_ok.mpr found) ?_
      exact readNumber_failsWith (.inl (kind_of_firmwareBlock found)) there
    | numaAffinity =>
      cases looked
      exact readNumaAffinity_failsWith there
    | errorFeatures => exact absurd rfl features
    | fanRpms _ | fanSpeed _ | fanSpeedMax _ | powerAverage _ | powerCap _ | temperature _ _
    | voltage _ _ => cases looked
    | _ => cases numeric

/-- A reading of a numbered sensor fails by the obstacle at its file. -/
theorem read_failsWith_of_sensor {r : Reading} {file : SensorFile} {sensor : UInt32} {m : Monitor}
    (looked : r.numbered? = some ([file], sensor)) (sensors : d.monitor = some m)
    (there : o.At t (m.file file (sensorIndex sensor))) : (d.read t r).FailsWith o.status := by
  have found : d.requireMonitor = .ok m := Outcome.ofOption_eq_ok.mpr sensors
  cases r with
  | fanRpms _ | fanSpeed _ | fanSpeedMax _ | powerAverage _ | powerCap _ =>
    cases looked
    exact Outcome.FailsWith.ok_bind found (Files.readWordAs_failsWith there)
  | _ => cases looked

/-- A reading of a single number fails by the obstacle at its file. -/
theorem read_failsWith {r : Reading} (numeric : r.isNumeric = true) {p : Path}
    (backed : d.IsBackedBy r p) (there : o.At t p) : (d.read t r).FailsWith (refusal r o) := by
  cases backed with
  | attributeFile looked => exact read_failsWith_of_attribute numeric looked there
  | sensorFile looked sensors =>
    have plain : refusal r o = o.status := by
      refine if_neg fun h => ?_
      rw [h.1] at looked
      cases looked
    rw [plain]
    exact read_failsWith_of_sensor looked sensors there
  | temperatureFile sensors labelled =>
    refine Outcome.FailsWith.ok_bind (Outcome.ofOption_eq_ok.mpr sensors) ?_
    exact Outcome.FailsWith.ok_bind labelled (Files.readWordAs_failsWith there)
  | voltageFile sensors labelled =>
    refine Outcome.FailsWith.ok_bind (Outcome.ofOption_eq_ok.mpr sensors) ?_
    exact Outcome.FailsWith.ok_bind labelled (Files.readWordAs_failsWith there)

/-- A reading that a file backs has nothing wrong with what it asks for. -/
theorem IsBackedBy.checkReading {r : Reading} (numeric : r.isNumeric = true) {p : Path}
    (backed : d.IsBackedBy r p) (s : Session) (dv : UInt32) : s.checkReading dv r = .ok () := by
  cases r with
  | firmwareVersion block =>
    cases backed with
    | attributeFile looked =>
      have found : Attribute.firmwareBlocks[block.toNat]? = some _ := looked
      exact if_pos (List.getElem?_eq_some_iff.mp found).1
    | sensorFile looked _ => cases looked
  | errorCount _ | availableCounters _ => cases numeric
  | _ => rfl

end Device

namespace Session

variable {s : Session} {t : Tree} {dv : UInt32} {d : Device}

/-- A reading of a device that is free, and that has nothing wrong with it, is one of the device. -/
theorem read_of_not_busy {r : Reading} (checked : s.checkReading dv r = .ok ())
    (hd : s.device dv = .ok d) (free : s.isBusy dv = false) : s.read t dv r = d.read t r := by
  unfold read lockedDevice
  rw [checked, hd, free]
  cases r.needsLock <;> rfl

/-- **Why a number cannot be read**: an obstacle at the file of a reading is told by one status,
whatever the reading, but for a blank file of features. -/
theorem read_obstacle {r : Reading} {p : Path} {o : Obstacle} (hd : s.device dv = .ok d)
    (free : s.isBusy dv = false) (numeric : r.isNumeric = true) (backed : d.IsBackedBy r p)
    (there : o.At t p) :
    ∃ e, s.read t dv r = .error e ∧
      e.toStatus = if r = .errorFeatures ∧ o = .blank then .unexpectedData else o.status := by
  rw [read_of_not_busy (backed.checkReading numeric s dv) hd free]
  exact Device.read_failsWith numeric backed there

/-! ### A card with obstacles -/

/-- A card without a number of its own, with a directory for its overdrive level, a blank file for
its load, one that is not text for the load of its memory, and blank features. -/
def obstructedSystem : Tree :=
  Inventory.cardSystem [("pp_sclk_od", .directory []),
    ("gpu_busy_percent", .file (Bytes.ofText " \n")), ("mem_busy_percent", .file [0xFF]),
    ("ras", .directory [("features", .file (Bytes.ofText "\n"))])]

/-- The directory of its attributes. -/
def obstructedDirectory : Path := .root ["drm", "card0", "device"]

theorem exists_obstructed :
    ∃ s d, build obstructedSystem Inventory.sampleConfig 0 ⟨1⟩ = .ok s ∧ s.isBusy 0 = false ∧
      s.device 0 = .ok d ∧ ∀ a : Attribute, d.attributePath a .reading =
        obstructedDirectory.join a.file := by
  have found : (build obstructedSystem Inventory.sampleConfig 0 ⟨1⟩).toOption.map
      (fun s => (s.isBusy 0, (s.device 0).toOption.map fun d => (d.directory, d.config))) =
        some (false, some (.root ["drm", "card0"], Inventory.sampleConfig)) := by decide +kernel
  obtain ⟨s, opened, e⟩ := Outcome.exists_of_toOption_map found
  obtain ⟨free, found⟩ := Prod.mk.inj e
  obtain ⟨d, hd, e⟩ := Outcome.exists_of_toOption_map found
  obtain ⟨directory, config⟩ := Prod.mk.inj e
  refine ⟨s, d, opened, free, hd, fun a => ?_⟩
  unfold Device.attributePath Config.overrideFor
  rw [config, directory]
  rfl

theorem at_obstructedSystem :
    Obstacle.missing.At obstructedSystem (obstructedDirectory.join Attribute.uniqueId.file) ∧
      Obstacle.directory.At obstructedSystem
        (obstructedDirectory.join Attribute.overDriveLevel.file) ∧
      Obstacle.blank.At obstructedSystem (obstructedDirectory.join Attribute.usage.file) ∧
      Obstacle.notText.At obstructedSystem
        (obstructedDirectory.join Attribute.memBusyPercent.file) ∧
      Obstacle.blank.At obstructedSystem
        (obstructedDirectory.join Attribute.errCntFeatures.file) := by
  refine ⟨⟨["drm", "card0", "0000:03:00.0", "unique_id"], by decide +kernel, rfl⟩, ⟨[], rfl⟩,
    ⟨Bytes.ofText " \n", " \n", by decide +kernel, by decide +kernel, by decide +kernel⟩,
    ⟨[0xFF], by decide +kernel, by decide +kernel⟩,
    ⟨Bytes.ofText "\n", "\n", by decide +kernel, by decide +kernel, by decide +kernel⟩⟩

/-- Four readings of the card are refused, each with the status of its obstacle. -/
theorem read_obstructed :
    ∃ s, build obstructedSystem Inventory.sampleConfig 0 ⟨1⟩ = .ok s ∧
      (s.read obstructedSystem 0 .uniqueId).FailsWith .notSupported ∧
      (s.read obstructedSystem 0 .overdriveLevel).FailsWith .fileError ∧
      (s.read obstructedSystem 0 .busy).FailsWith .noData ∧
      (s.read obstructedSystem 0 .memoryBusy).FailsWith .unexpectedData := by
  obtain ⟨s, d, opened, free, hd, path⟩ := exists_obstructed
  obtain ⟨missing, directory, blank, notText, _⟩ := at_obstructedSystem
  refine ⟨s, opened, ?_, ?_, ?_, ?_⟩
  · exact read_obstacle (r := .uniqueId) hd free rfl (.attributeFile rfl) (path _ ▸ missing)
  · exact read_obstacle (r := .overdriveLevel) hd free rfl (.attributeFile rfl) (path _ ▸ directory)
  · exact read_obstacle (r := .busy) hd free rfl (.attributeFile rfl) (path _ ▸ blank)
  · exact read_obstacle (r := .memoryBusy) hd free rfl (.attributeFile rfl) (path _ ▸ notText)

/-- The blank features of the card are not told as no data. -/
theorem read_blankFeatures :
    ∃ s d, build obstructedSystem Inventory.sampleConfig 0 ⟨1⟩ = .ok s ∧ s.device 0 = .ok d ∧
      s.isBusy 0 = false ∧
      Obstacle.blank.At obstructedSystem (d.attributePath .errCntFeatures .reading) ∧
      s.read obstructedSystem 0 .errorFeatures = .fail .unexpectedData := by
  obtain ⟨s, d, opened, free, hd, path⟩ := exists_obstructed
  obtain ⟨_, _, _, _, blank⟩ := at_obstructedSystem
  refine ⟨s, d, opened, hd, free, path _ ▸ blank, ?_⟩
  have answer : (build obstructedSystem Inventory.sampleConfig 0 ⟨1⟩).toOption.map
      (fun s => (s.read obstructedSystem 0 .errorFeatures : Outcome UInt64)) =
        some (.fail .unexpectedData) := by decide +kernel
  rw [opened] at answer
  exact Option.some.inj answer

end Session

end GpuManagement
