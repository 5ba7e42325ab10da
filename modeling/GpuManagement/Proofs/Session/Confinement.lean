import GpuManagement.Proofs.Session.Setting

/-!
# What a setting can touch

A setting goes through its gates before its first write: the user, the value, the device and its
lock, and whatever has to be read first. Short of the last gate the tree is left alone. Past it the
setting does nothing but write to its targets (`Device.targets`), which are named by the setting and
the device and not by what the files hold.

`Session.isConfined_apply` is both halves for every setting. The gates are told without the order
in which they come (`Session.Admits`), and they are all of them: a setting that they let through is
written.
-/

namespace GpuManagement

/-! ## Masks -/

/-- A mask has no bits beyond its width. -/
theorem testBit_of_le {mask : UInt64} {i : Nat} (h : 64 ≤ i) : mask.toNat.testBit i = false :=
  Nat.testBit_lt_two_pow (Nat.lt_of_lt_of_le mask.toNat_lt (Nat.pow_le_pow_right (by decide) h))

theorem mem_selectedLevels {mask : UInt64} {count i : Nat} :
    i ∈ selectedLevels mask count ↔ i < count ∧ mask.toNat.testBit i = true := by
  unfold selectedLevels
  rw [List.mem_filter, List.mem_range]
  constructor
  · rintro ⟨below, bit⟩
    exact ⟨Nat.lt_of_lt_of_le below (Nat.min_le_left _ _), bit⟩
  · rintro ⟨below, bit⟩
    refine ⟨Nat.lt_min.mpr ⟨below, ?_⟩, bit⟩
    rcases Nat.lt_or_ge i 64 with h | h
    · exact h
    · rw [testBit_of_le h] at bit
      cases bit

/-- Levels are selected when the mask has one of them. -/
theorem levelSelection_ok_iff {mask : UInt64} {count : Nat} :
    (∃ selection, levelSelection mask count = .ok selection) ↔
      ∃ i, i < count ∧ mask.toNat.testBit i = true := by
  unfold levelSelection
  cases selected : selectedLevels mask count with
  | nil =>
    refine ⟨fun ⟨_, e⟩ => (by cases e), fun ⟨i, chosen⟩ => ?_⟩
    have chosen := mem_selectedLevels.mpr chosen
    rw [selected] at chosen
    cases chosen
  | cons i rest =>
    have first : i ∈ selectedLevels mask count := by
      rw [selected]
      exact List.mem_cons_self
    exact ⟨fun _ => ⟨i, mem_selectedLevels.mp first⟩, fun _ => ⟨_, rfl⟩⟩

namespace Setting

/-- A mask has a single bit when it is a power of two. -/
theorem isSome_singleBit?_iff {mask : UInt64} :
    (singleBit? mask).isSome = true ↔ ∃ bit, mask.toNat = 2 ^ bit := by
  have whole : ∀ i, i ∈ selectedLevels mask 64 ↔ mask.toNat.testBit i = true := by
    intro i
    rw [mem_selectedLevels, and_iff_right_of_imp]
    intro bit
    rcases Nat.lt_or_ge i 64 with h | h
    · exact h
    · rw [testBit_of_le h] at bit
      cases bit
  constructor
  · intro h
    unfold singleBit? at h
    split at h
    · rename_i bit only
      refine ⟨bit, Nat.eq_of_testBit_eq fun i => ?_⟩
      rw [Bool.eq_iff_iff, ← whole, only, List.mem_singleton, Nat.testBit_two_pow,
        decide_eq_true_eq, eq_comm]
    · cases h
  · rintro ⟨bit, h⟩
    have distinct : (selectedLevels mask 64).Nodup := List.nodup_range.filter _
    have only : selectedLevels mask 64 = [bit] := by
      refine List.perm_singleton.mp ((List.perm_ext_iff_of_nodup distinct
        (by simp)).mpr fun i => ?_)
      rw [whole, h, Nat.testBit_two_pow, decide_eq_true_eq, List.mem_singleton, eq_comm]
    unfold singleBit?
    rw [only]
    rfl

/-- The value of a setting is in its range, whatever the device. -/
def IsInRange : Setting → Prop
  | perfLevel level => level ≠ .unknown
  | overdriveLevel level => level.toNat ≤ 20
  | powerProfile profile => ∃ bit, profile.toNat = 2 ^ bit
  | _ => True

theorem check_eq_ok_iff {setting : Setting} : setting.check = .ok () ↔ setting.IsInRange := by
  have passes : ∀ {p : Prop} [Decidable p],
      (if p then Outcome.fail .invalidArgs else .ok () : Outcome Unit) = .ok () ↔ ¬ p := by
    intro p _
    split
    · exact ⟨fun e => (by cases e), fun h => absurd ‹p› h⟩
    · exact ⟨fun _ => ‹¬ p›, fun _ => rfl⟩
  cases setting with
  | perfLevel level => exact passes
  | overdriveLevel level => exact passes.trans Nat.not_lt
  | powerProfile profile =>
    refine passes.trans ?_
    rw [IsInRange, ← isSome_singleBit?_iff, Bool.not_eq_true, Option.isNone_eq_false_iff]
  | clockLevels _ _ | busLevels _ | fanReset _ | fanSpeed _ _ | powerCap _ _ =>
    exact ⟨fun _ => trivial, fun _ => rfl⟩

end Setting

namespace Device

variable {d : Device} {t : Tree}

/-! ## What has to be read -/

/-- The table of an attribute can be read, and has a level that the mask chooses. -/
def HasLevel (d : Device) (t : Tree) (a : Attribute) (mask : UInt64) : Prop :=
  ∃ table, d.readTable t a = .ok table ∧ ∃ i, i < table.count ∧ mask.toNat.testBit i = true

/-- What a setting has to read of a device is there and well-formed, and allows the value. -/
def Allows (d : Device) (t : Tree) : Setting → Prop
  | .perfLevel _ | .overdriveLevel _ | .powerProfile _ => True
  | .clockLevels clock mask => d.HasLevel t clock.tableAttribute mask
  | .busLevels mask => d.HasLevel t .pcieClk mask
  | .fanReset _ => ∃ m, d.monitor = some m
  | .fanSpeed fan speed =>
    ∃ most, d.readSensor t .maxFanSpeed fan = .ok most ∧ speed.toNat ≤ most.toNat
  | .powerCap sensor cap =>
    ∃ most least, d.readSensor t .powerCapMax sensor = .ok most ∧
      d.readSensor t .powerCapMin sensor = .ok least ∧
      least.toNat ≤ cap.toNat ∧ cap.toNat ≤ most.toNat

/-- The paths that a setting of a device writes to. -/
def targets (d : Device) : Setting → List Path
  | .perfLevel _ => [d.attributePath .perfLevel .writing]
  | .overdriveLevel _ => [d.attributePath .overDriveLevel .writing]
  | .clockLevels clock _ =>
    [d.attributePath .perfLevel .writing, d.attributePath clock.tableAttribute .writing]
  | .busLevels _ => [d.attributePath .perfLevel .writing, d.attributePath .pcieClk .writing]
  | .powerProfile _ =>
    [d.attributePath .perfLevel .writing, d.attributePath .powerProfileMode .writing]
  | .fanReset fan => d.monitor.toList.map fun m => m.file .fanControlEnable (sensorIndex fan)
  | .fanSpeed fan _ =>
    d.monitor.toList.flatMap fun m =>
      [m.file .fanControlEnable (sensorIndex fan), m.file .fanSpeed (sensorIndex fan)]
  | .powerCap sensor _ => d.monitor.toList.map fun m => m.file .powerCap (sensorIndex sensor)

/-- Levels are written where the table of the attribute has one of them. -/
theorem levelWrites_ok_iff {a : Attribute} {mask : UInt64} :
    (∃ ws, d.levelWrites t a mask = .ok ws) ↔ d.HasLevel t a mask := by
  constructor
  · rintro ⟨ws, h⟩
    obtain ⟨table, read, h⟩ := Outcome.bind_eq_ok.mp h
    obtain ⟨selection, selected, _⟩ := Outcome.bind_eq_ok.mp h
    exact ⟨table, read, levelSelection_ok_iff.mp ⟨selection, selected⟩⟩
  · rintro ⟨table, read, chosen⟩
    obtain ⟨selection, selected⟩ := levelSelection_ok_iff.mpr chosen
    exact ⟨_, Outcome.bind_eq_ok.mpr ⟨table, read,
      Outcome.bind_eq_ok.mpr ⟨selection, selected, rfl⟩⟩⟩

/-- A number of a sensor is read from the files of its card. -/
theorem readSensor_eq_ok_iff {file : SensorFile} {sensor : UInt32} {value : UInt64} :
    d.readSensor t file sensor = .ok value ↔
      ∃ m, d.requireMonitor = .ok m ∧ m.readDecimal t file (sensorIndex sensor) = .ok value :=
  Outcome.bind_eq_ok

/-- A setting whose value is in its range comes to writes exactly where the device allows it. -/
theorem writes_ok_iff {setting : Setting} (inRange : setting.IsInRange) :
    (∃ ws, d.writes t setting = .ok ws) ↔ d.Allows t setting := by
  cases setting with
  | perfLevel _ | overdriveLevel _ => exact ⟨fun _ => trivial, fun _ => ⟨_, rfl⟩⟩
  | clockLevels clock mask => exact levelWrites_ok_iff
  | busLevels mask => exact levelWrites_ok_iff
  | powerProfile profile =>
    obtain ⟨bit, single⟩ := Option.isSome_iff_exists.mp (Setting.isSome_singleBit?_iff.mpr inRange)
    exact ⟨fun _ => trivial, fun _ =>
      ⟨_, Outcome.bind_eq_ok.mpr ⟨bit, Outcome.ofOption_eq_ok.mpr single, rfl⟩⟩⟩
  | fanReset fan =>
    constructor
    · rintro ⟨ws, h⟩
      obtain ⟨m, hm, _⟩ := Outcome.bind_eq_ok.mp h
      exact ⟨m, Outcome.ofOption_eq_ok.mp hm⟩
    · rintro ⟨m, hm⟩
      exact ⟨_, Outcome.bind_eq_ok.mpr ⟨m, Outcome.ofOption_eq_ok.mpr hm, rfl⟩⟩
  | fanSpeed fan speed =>
    constructor
    · rintro ⟨ws, h⟩
      obtain ⟨m, hm, h⟩ := Outcome.bind_eq_ok.mp h
      obtain ⟨most, read, h⟩ := Outcome.bind_eq_ok.mp h
      split at h
      · cases h
      · exact ⟨most, readSensor_eq_ok_iff.mpr ⟨m, hm, read⟩, Nat.le_of_not_lt ‹_›⟩
    · rintro ⟨most, read, fits⟩
      obtain ⟨m, hm, read⟩ := readSensor_eq_ok_iff.mp read
      exact ⟨_, Outcome.bind_eq_ok.mpr ⟨m, hm, Outcome.bind_eq_ok.mpr
        ⟨most, read, if_neg (Nat.not_lt.mpr fits)⟩⟩⟩
  | powerCap sensor cap =>
    constructor
    · rintro ⟨ws, h⟩
      obtain ⟨m, hm, h⟩ := Outcome.bind_eq_ok.mp h
      obtain ⟨most, readMost, h⟩ := Outcome.bind_eq_ok.mp h
      obtain ⟨least, readLeast, h⟩ := Outcome.bind_eq_ok.mp h
      split at h
      · exact ⟨most, least, readSensor_eq_ok_iff.mpr ⟨m, hm, readMost⟩,
          readSensor_eq_ok_iff.mpr ⟨m, hm, readLeast⟩, ‹_›⟩
      · cases h
    · rintro ⟨most, least, readMost, readLeast, fits⟩
      obtain ⟨m, hm, readMost⟩ := readSensor_eq_ok_iff.mp readMost
      obtain ⟨m', hm', readLeast⟩ := readSensor_eq_ok_iff.mp readLeast
      cases hm.symm.trans hm'
      exact ⟨_, Outcome.bind_eq_ok.mpr ⟨m, hm, Outcome.bind_eq_ok.mpr ⟨most, readMost,
        Outcome.bind_eq_ok.mpr ⟨least, readLeast, if_pos fits⟩⟩⟩⟩

/-- Whatever a device holds, the writes of a setting go to its targets. -/
theorem writes_paths {setting : Setting} {ws : List FileWrite}
    (h : d.writes t setting = .ok ws) : ws.map FileWrite.path = d.targets setting := by
  cases setting with
  | perfLevel _ | overdriveLevel _ =>
    cases h
    rfl
  | clockLevels _ _ | busLevels _ =>
    obtain ⟨_, selection, rfl⟩ := levelWrites_eq_ok h
    rfl
  | powerProfile profile =>
    obtain ⟨bit, _, h⟩ := Outcome.bind_eq_ok.mp h
    cases h
    rfl
  | fanReset fan =>
    obtain ⟨m, hm, h⟩ := Outcome.bind_eq_ok.mp h
    cases h
    rw [targets, Outcome.ofOption_eq_ok.mp hm]
    rfl
  | fanSpeed fan speed =>
    obtain ⟨m, hm, h⟩ := Outcome.bind_eq_ok.mp h
    obtain ⟨most, _, h⟩ := Outcome.bind_eq_ok.mp h
    split at h
    · cases h
    · cases h
      rw [targets, Outcome.ofOption_eq_ok.mp hm]
      rfl
  | powerCap sensor cap =>
    obtain ⟨m, hm, h⟩ := Outcome.bind_eq_ok.mp h
    obtain ⟨most, _, h⟩ := Outcome.bind_eq_ok.mp h
    obtain ⟨least, _, h⟩ := Outcome.bind_eq_ok.mp h
    split at h
    · cases h
      rw [targets, Outcome.ofOption_eq_ok.mp hm]
      rfl
    · cases h

end Device

/-! ## What writes can touch -/

/-- A file that one write changed is where the path of the write leads. -/
theorem FileWrite.resolve_of_writeText {t u : Tree} {w : FileWrite} {location : Location}
    (h : Files.writeText t w.path w.text = .ok u)
    (changed : u.fileAt? location ≠ t.fileAt? location) :
    t.resolve .use w.path = .ok location := by
  have h := writeText_eq_ok_iff.mp h
  obtain ⟨place, _, hl, _⟩ := Tree.write_eq_ok_iff.mp h
  have files := Tree.fileAt?_write h hl location
  by_cases same : location = place
  · rw [same]
    exact hl
  · rw [if_neg same] at files
    exact absurd files changed

/-- **A file that writes changed** is where the path of one of them led before the first. -/
theorem FileWrite.resolve_of_run {ws : List FileWrite} {t u : Tree} {o : Outcome Unit}
    {location : Location} (h : run t ws = (o, u))
    (changed : u.fileAt? location ≠ t.fileAt? location) :
    ∃ w ∈ ws, t.resolve .use w.path = .ok location := by
  induction ws generalizing t with
  | nil =>
    cases h
    exact absurd rfl changed
  | cons w ws ih =>
    rw [run] at h
    cases hw : Files.writeText t w.path w.text with
    | error _ =>
      rw [hw] at h
      cases h
      exact absurd rfl changed
    | ok next =>
      rw [hw] at h
      by_cases later : u.fileAt? location = next.fileAt? location
      · rw [later] at changed
        exact ⟨w, List.mem_cons_self, resolve_of_writeText hw changed⟩
      · -- a write moves nothing, so the later paths led to the same places before it
        obtain ⟨w', hw', led⟩ := ih h later
        rw [(sameShape_of_writeText hw).resolve_eq] at led
        exact ⟨w', List.mem_cons_of_mem _ hw', led⟩

namespace Session

/-- The gates of a setting, the user apart: the device is there and free, the value is in its range,
and what has to be read of the device allows it. -/
structure Admits (s : Session) (t : Tree) (dv : UInt32) (setting : Setting) (d : Device) :
    Prop where
  device : s.device dv = .ok d
  free : s.isBusy dv = false
  inRange : setting.IsInRange
  allows : d.Allows t setting

/-- A setting is confined: without the right to change things it does nothing, nor where a gate is
shut; where none is, it is done to its targets in order. It moves nothing, and a file that it
changed is one that a target of it led to. -/
structure IsConfined (s : Session) (t : Tree) (dv : UInt32) (setting : Setting) : Prop where
  permission : s.user ≠ 0 → s.apply t dv setting = (.fail .permission, t)
  refused : s.user = 0 → (∀ d, ¬ s.Admits t dv setting d) →
    ∃ e, s.apply t dv setting = (.error e, t)
  written : s.user = 0 → ∀ d, s.Admits t dv setting d →
    ∃ ws, ws.map FileWrite.path = d.targets setting ∧
      s.apply t dv setting = FileWrite.run t ws
  shape : Tree.SameShape (s.apply t dv setting).2 t
  files : ∀ location, (s.apply t dv setting).2.fileAt? location ≠ t.fileAt? location →
    ∃ d p, s.device dv = .ok d ∧ p ∈ d.targets setting ∧ t.resolve .use p = .ok location

/-- A device is locked when it is there and free. -/
theorem lockedDevice_eq_ok_iff {s : Session} {dv : UInt32} {d : Device} :
    s.lockedDevice dv = .ok d ↔ s.device dv = .ok d ∧ s.isBusy dv = false := by
  constructor
  · intro h
    obtain ⟨d', hd, h⟩ := Outcome.bind_eq_ok.mp h
    split at h
    · cases h
    · cases h
      exact ⟨hd, Bool.eq_false_iff.mpr ‹_›⟩
  · rintro ⟨hd, free⟩
    refine Outcome.bind_eq_ok.mpr ⟨d, hd, ?_⟩
    rw [free]
    rfl

theorem requireRoot_eq_ok_iff {s : Session} : s.requireRoot = .ok () ↔ s.user = 0 := by
  unfold requireRoot
  split
  · exact ⟨fun _ => ‹_›, fun _ => rfl⟩
  · exact ⟨fun e => (by cases e), fun h => absurd h ‹_›⟩

/-- **What becomes of a setting**: nothing, where the user or a gate is against it, or its
writes. -/
theorem apply_cases (s : Session) (t : Tree) (dv : UInt32) (setting : Setting) :
    (∃ e, s.apply t dv setting = (.error e, t) ∧
      ¬ (s.user = 0 ∧ ∃ d, s.Admits t dv setting d)) ∨
    ∃ d ws, s.user = 0 ∧ s.Admits t dv setting d ∧ ws.map FileWrite.path = d.targets setting ∧
      s.apply t dv setting = FileWrite.run t ws := by
  have gates : ∀ d, (do s.requireRoot; setting.check; s.lockedDevice dv : Outcome Device) = .ok d ↔
      s.user = 0 ∧ setting.IsInRange ∧ s.device dv = .ok d ∧ s.isBusy dv = false := by
    intro d
    rw [Outcome.bind_eq_ok, ← requireRoot_eq_ok_iff, ← Setting.check_eq_ok_iff,
      ← lockedDevice_eq_ok_iff]
    constructor
    · rintro ⟨_, root, h⟩
      obtain ⟨_, checked, locked⟩ := Outcome.bind_eq_ok.mp h
      exact ⟨root, checked, locked⟩
    · rintro ⟨root, checked, locked⟩
      exact ⟨(), root, Outcome.bind_eq_ok.mpr ⟨(), checked, locked⟩⟩
  unfold apply
  cases admitted : (do s.requireRoot; setting.check; s.lockedDevice dv : Outcome Device) with
  | error e =>
    refine .inl ⟨e, rfl, fun ⟨root, d, gate⟩ => ?_⟩
    have passed := (gates d).mpr ⟨root, gate.inRange, gate.device, gate.free⟩
    rw [admitted] at passed
    cases passed
  | ok d =>
    obtain ⟨root, inRange, hd, free⟩ := (gates d).mp admitted
    have allowed := d.writes_ok_iff (t := t) inRange
    simp only [Device.apply]
    cases hw : d.writes t setting with
    | error e =>
      refine .inl ⟨e, rfl, fun ⟨_, d', gate⟩ => ?_⟩
      cases hd.symm.trans gate.device
      obtain ⟨ws, written⟩ := allowed.mpr gate.allows
      rw [hw] at written
      cases written
    | ok ws =>
      exact .inr ⟨d, ws, root, ⟨hd, free, inRange, allowed.mp ⟨ws, hw⟩⟩, d.writes_paths hw, rfl⟩

/-- **Settings are confined**, whatever the session, the device and the value. -/
theorem isConfined_apply (s : Session) (t : Tree) (dv : UInt32) (setting : Setting) :
    s.IsConfined t dv setting := by
  rcases s.apply_cases t dv setting with ⟨e, stopped, short⟩ | ⟨d, ws, root, gate, paths, run⟩
  · refine ⟨fun other => ?_, fun _ _ => ⟨e, stopped⟩,
      fun root d gate => absurd ⟨root, d, gate⟩ short, ?_, fun location changed => ?_⟩
    · rw [apply, requireRoot, if_neg other]
      rfl
    · rw [stopped]
      exact fun _ => rfl
    · rw [stopped] at changed
      exact absurd rfl changed
  · refine ⟨fun other => absurd root other, fun _ shut => absurd gate (shut d),
      fun _ d' gate' => ?_, ?_, fun location changed => ?_⟩
    · cases gate.device.symm.trans gate'.device
      exact ⟨ws, paths, run⟩
    · rw [run]
      exact FileWrite.run_sameShape (o := (FileWrite.run t ws).1) rfl
    · rw [run] at changed
      obtain ⟨w, hw, led⟩ := FileWrite.resolve_of_run (o := (FileWrite.run t ws).1) rfl changed
      refine ⟨d, w.path, gate.device, ?_, led⟩
      rw [← paths]
      exact List.mem_map_of_mem hw

end Session

end GpuManagement
