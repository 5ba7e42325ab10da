import GpuManagement.Interface.Basic
import GpuManagement.Proofs.Session.Basic

/-!
# Asking and reading

A getter without a place for its value only asks whether the call is supported. On a session that
is settled on a tree, so that its devices were made from it and what they support was worked out
from it, asking and reading agree (`Interface.notSupported_after_reading_iff`): a call that hands a
value over is not said to be unsupported afterwards, with the one exception of the temperature at the
edge of a card without labels.

The getters are gone through once for the rows that they stand in (`Getter.exists_row_of_attribute`,
`Getter.row_of_numbered`) and once for how they are asked about (`Getter.selectors_of_read`). That
nothing in between matters is a step law, `Interface.IsSettled.get`, and its run law.
-/

namespace GpuManagement

namespace Getter

/-! ## Rows of getters -/

/-- A block with error counts has a variant for them. -/
theorem mem_of_ofErrorBlock? {block : UInt64} {a : Attribute}
    (h : Attribute.ofErrorBlock? block = some a) :
    (block, a) ∈ [((0x1 : UInt64), Attribute.errCntUmc), (0x2, .errCntSdma), (0x4, .errCntGfx)] := by
  unfold Attribute.ofErrorBlock? at h
  split at h
  · rename_i e
    cases e
    cases h
    exact List.mem_cons_self
  · split at h
    · rename_i e
      cases e
      cases h
      exact List.mem_cons_of_mem _ List.mem_cons_self
    · split at h
      · rename_i e
        cases e
        cases h
        exact List.mem_cons_of_mem _ (List.mem_cons_of_mem _ List.mem_cons_self)
      · cases h

/-- A getter for an attribute has a row that the attribute is enough for. -/
theorem exists_row_of_attribute {g : Getter} {r : Reading} (hr : g.reading? = some r)
    {a : Attribute} (ha : r.attribute? = some a) :
    ∃ row ∈ Requirement.ofDevice, row.call = g.name ∧ row.IsMetBy a.file := by
  cases g with
  | clockTable clock =>
    obtain ⟨c, _, rfl⟩ := Option.map_eq_some_iff.mp hr
    cases ha
    have variant : (UInt64.ofNat c.number, c.tableAttribute) ∈ Requirement.clockVariants :=
      List.mem_map.mpr ⟨c, by cases c <;> decide, rfl⟩
    refine ⟨_, ?_, rfl, Requirement.isMetBy_ofVariants variant⟩
    simp only [Requirement.ofDevice, List.mem_cons, true_or, or_true]
  | memoryTotal memory =>
    obtain ⟨m, _, rfl⟩ := Option.map_eq_some_iff.mp hr
    cases ha
    have variant : (UInt64.ofNat m.number, m.totalAttribute) ∈
        MemoryType.all.map fun m => (UInt64.ofNat m.number, m.totalAttribute) :=
      List.mem_map.mpr ⟨m, by cases m <;> decide, rfl⟩
    refine ⟨_, ?_, rfl, Requirement.isMetBy_ofVariants variant⟩
    simp only [Requirement.ofDevice, List.mem_cons, true_or, or_true]
  | memoryUsed memory =>
    obtain ⟨m, _, rfl⟩ := Option.map_eq_some_iff.mp hr
    cases ha
    have variant : (UInt64.ofNat m.number, m.usedAttribute) ∈
        MemoryType.all.map fun m => (UInt64.ofNat m.number, m.usedAttribute) :=
      List.mem_map.mpr ⟨m, by cases m <;> decide, rfl⟩
    refine ⟨_, ?_, rfl, Requirement.isMetBy_ofVariants variant⟩
    simp only [Requirement.ofDevice, List.mem_cons, true_or, or_true]
  | firmwareVersion block =>
    cases hr
    have variant : (UInt64.ofNat block.toNat, a) ∈ Requirement.firmwareVariants :=
      List.mem_map.mpr ⟨(a, block.toNat), List.mem_zipIdx_iff_getElem?.mpr ha, rfl⟩
    refine ⟨_, ?_, rfl, Requirement.isMetBy_ofVariants variant⟩
    simp only [Requirement.ofDevice, List.mem_cons, true_or, or_true]
  | errorCount block =>
    cases hr
    refine ⟨_, ?_, rfl, Requirement.isMetBy_ofVariants (mem_of_ofErrorBlock? ha)⟩
    simp only [Requirement.ofDevice, List.mem_cons, true_or, or_true]
  | availableCounters group =>
    cases hr
    cases ha
    have variant : (0, .dfCountersAvailable) ∈ [((0 : UInt64), Attribute.dfCountersAvailable)] :=
      List.mem_cons_self
    refine ⟨_, ?_, rfl, Requirement.isMetBy_ofVariants variant⟩
    simp only [Requirement.ofDevice, List.mem_cons, true_or, or_true]
  | temperature _ _ | voltage _ _ =>
    obtain ⟨_, _, hr⟩ := Option.bind_eq_some_iff.mp hr
    obtain ⟨_, _, hr⟩ := Option.bind_eq_some_iff.mp hr
    cases hr
    cases ha
  | pciId | renderMinor | maxPower | fanRpms _ | fanSpeed _ | fanSpeedMax _ | powerAverage _
  | powerCap _ | powerCapRange _ =>
    cases hr
    cases ha
  | _ =>
    cases hr
    cases ha
    refine ⟨_, ?_, rfl, Requirement.isMetBy_ofAttributes _ _⟩
    simp only [Requirement.ofDevice, List.mem_cons, true_or, or_true]

/-- A getter for a numbered sensor has a row that asks for the files it reads. -/
theorem row_of_numbered {g : Getter} {r : Reading} (hr : g.reading? = some r)
    {files : List SensorFile} {sensor : UInt32} (hf : r.numbered? = some (files, sensor)) :
    Requirement.plain g.name (files.map SensorFile.pattern) ∈ Requirement.ofMonitor ∧
      .name ∉ files := by
  cases g with
  | fanRpms _ | fanSpeed _ | fanSpeedMax _ | powerAverage _ | powerCap _ | powerCapRange _ =>
    cases hr
    cases hf
    refine ⟨?_, by decide⟩
    simp only [name, List.map_cons, List.map_nil, SensorFile.pattern, Requirement.ofMonitor,
      List.mem_cons, true_or, or_true]
  | clockTable _ | memoryTotal _ | memoryUsed _ =>
    obtain ⟨_, _, rfl⟩ := Option.map_eq_some_iff.mp hr
    cases hf
  | temperature _ _ | voltage _ _ =>
    obtain ⟨_, _, hr⟩ := Option.bind_eq_some_iff.mp hr
    obtain ⟨_, _, hr⟩ := Option.bind_eq_some_iff.mp hr
    cases hr
    cases hf
  | _ =>
    cases hr
    cases hf

/-! ## What was read is supported -/

variable {g : Getter} {s : Session} {d : Device} {t : Tree} {dv : UInt32}

/-- The getter is for the temperature at the edge of a card without labels for temperatures. -/
def IsUnlabelledEdge (g : Getter) (d : Device) (t : Tree) : Prop :=
  ∃ sensor metric m, g = .temperature sensor metric ∧ TempSensor.ofNumber? sensor = some .edge ∧
    d.monitor = some m ∧ (m.files t).indices "temp#_label" = []

/-- A getter that read a value of a device is supported by it, unless labels are missing. -/
theorem isUnlabelledEdge_or_isSome (plain : d.IsPlain t) {r : Reading} (hr : g.reading? = some r)
    {value : r.Value} (read : d.read t r = .ok value) (listed : g.probe ≠ .unlisted) :
    g.IsUnlabelledEdge d t ∨ ((d.capabilities t).get? g.name).isSome = true := by
  rw [Device.isSome_capabilities_iff]
  cases ha : r.attribute? with
  | some a =>
    obtain ⟨row, hrow, call, enough⟩ := exists_row_of_attribute hr ha
    have reads := Device.reads_of_read read ha
    exact .inr (.inl ⟨row, hrow, call, Device.isSupported_of_reads plain reads enough⟩)
  | none =>
    cases hf : r.numbered? with
    | some files =>
      obtain ⟨m, hm, readable⟩ := Device.isReadable_of_read read hf
      obtain ⟨hrow, named⟩ := row_of_numbered hr hf
      exact .inr (.inr ⟨m, hm, _, hrow, rfl, Device.isSupported_of_isReadable named readable⟩)
    | none =>
      cases g with
      | temperature number metric =>
        obtain ⟨sensor, hs, hr⟩ := Option.bind_eq_some_iff.mp hr
        obtain ⟨kind, _, hr⟩ := Option.bind_eq_some_iff.mp hr
        cases hr
        obtain ⟨m, hm, read⟩ := Outcome.bind_eq_ok.mp read
        obtain ⟨index, hi, read⟩ := Outcome.bind_eq_ok.mp read
        have present := Device.monitor_of_requireMonitor hm
        rw [plain.monitor present] at hi
        rcases Monitor.mem_indices_of_temperatureIndex hi with ⟨none, rfl⟩ | there
        · exact .inl ⟨number, metric, m, rfl, hs, present, none⟩
        · have row := Device.exists_row_of_temperature there (Files.isReadable_of_readWordAs read)
          exact .inr (.inr ⟨m, present, row⟩)
      | voltage number metric =>
        obtain ⟨sensor, _, hr⟩ := Option.bind_eq_some_iff.mp hr
        obtain ⟨kind, _, hr⟩ := Option.bind_eq_some_iff.mp hr
        cases hr
        obtain ⟨m, hm, read⟩ := Outcome.bind_eq_ok.mp read
        obtain ⟨index, hi, read⟩ := Outcome.bind_eq_ok.mp read
        have present := Device.monitor_of_requireMonitor hm
        rw [plain.monitor present] at hi
        have there := Monitor.mem_indices_of_voltageIndex hi
        have row := Device.exists_row_of_voltage there (Files.isReadable_of_readWordAs read)
        exact .inr (.inr ⟨m, present, row⟩)
      | pciId | renderMinor =>
        refine .inr (.inl ⟨_, ?_, rfl, Requirement.isSupported_ofAttributes_nil _ _⟩)
        simp only [Requirement.ofDevice, List.mem_cons, true_or, or_true]
      | firmwareVersion _ | errorCount _ =>
        cases hr
        obtain ⟨a, h, _⟩ := Outcome.bind_eq_ok.mp read
        cases ha.symm.trans (Outcome.ofOption_eq_ok.mp h)
      | maxPower => exact absurd rfl listed
      | clockTable _ | memoryTotal _ | memoryUsed _ =>
        obtain ⟨_, _, rfl⟩ := Option.map_eq_some_iff.mp hr
        cases ha
      | fanRpms _ | fanSpeed _ | fanSpeedMax _ | powerAverage _ | powerCap _ | powerCapRange _ =>
        cases hr
        cases hf
      | _ =>
        cases hr
        cases ha

/-- The name of a getter that read a value is missing exactly where labels are. -/
theorem get?_capabilities_eq_none_iff (plain : d.IsPlain t) {r : Reading}
    (hr : g.reading? = some r) {value : r.Value} (read : d.read t r = .ok value)
    (listed : g.probe ≠ .unlisted) :
    (d.capabilities t).get? g.name = none ↔ g.IsUnlabelledEdge d t := by
  constructor
  · intro none
    rcases isUnlabelledEdge_or_isSome plain hr read listed with unlabelled | present
    · exact unlabelled
    · rw [none] at present
      cases present
  · rintro ⟨_, _, m, rfl, _, hm, unlabelled⟩
    exact Device.get?_capabilities_unlabelled hm unlabelled

/-! ## One call -/

/-- An answer is a reading of a device. -/
theorem read_of_answer {a : Answer} (h : g.answer s t dv = .ok a) :
    ∃ r d, ∃ value : r.Value, g.reading? = some r ∧ s.device dv = .ok d ∧
      d.read t r = .ok value := by
  obtain ⟨r, hr, h⟩ := Outcome.bind_eq_ok.mp h
  obtain ⟨value, hv, _⟩ := Outcome.bind_eq_ok.mp h
  obtain ⟨d, hd, read⟩ := Session.read_eq_ok hv
  exact ⟨r, d, value, Outcome.ofOption_eq_ok.mp hr, hd, read⟩

/-- A getter that read a value of a device is asked about by its name. -/
theorem selectors_of_read (hd : s.device dv = .ok d) {r : Reading} (hr : g.reading? = some r)
    {value : r.Value} (read : d.read t r = .ok value) (listed : g.probe ≠ .unlisted) :
    ∃ id number, g.probe.selectors s t dv = .ok (some (g.name, id, number)) := by
  cases g with
  | temperature number metric =>
    obtain ⟨sensor, hs, hr⟩ := Option.bind_eq_some_iff.mp hr
    obtain ⟨kind, _, hr⟩ := Option.bind_eq_some_iff.mp hr
    cases hr
    obtain ⟨m, hm, read⟩ := Outcome.bind_eq_ok.mp read
    obtain ⟨index, hi, _⟩ := Outcome.bind_eq_ok.mp read
    have found : s.read t dv (.temperatureIndex sensor) = .ok index :=
      (Session.read_of_free rfl rfl hd).trans (Outcome.bind_eq_ok.mpr ⟨m, hm, hi⟩)
    exact ⟨_, _, Outcome.bind_eq_ok.mpr ⟨sensor, Outcome.ofOption_eq_ok.mpr hs,
      Outcome.bind_eq_ok.mpr ⟨index, found, rfl⟩⟩⟩
  | voltage number metric =>
    obtain ⟨sensor, hs, hr⟩ := Option.bind_eq_some_iff.mp hr
    obtain ⟨kind, _, hr⟩ := Option.bind_eq_some_iff.mp hr
    cases hr
    obtain ⟨m, hm, read⟩ := Outcome.bind_eq_ok.mp read
    obtain ⟨index, hi, _⟩ := Outcome.bind_eq_ok.mp read
    have found : s.read t dv (.voltageIndex sensor) = .ok index :=
      (Session.read_of_free rfl rfl hd).trans (Outcome.bind_eq_ok.mpr ⟨m, hm, hi⟩)
    exact ⟨_, _, Outcome.bind_eq_ok.mpr ⟨sensor, Outcome.ofOption_eq_ok.mpr hs,
      Outcome.bind_eq_ok.mpr ⟨index, found, rfl⟩⟩⟩
  | maxPower => exact absurd rfl listed
  | _ => exact ⟨_, _, rfl⟩

/-- Without a place for its value a getter never answers. -/
theorem call_without_place (s : Session) (t : Tree) (now : Nat) (dv : UInt32) :
    ∃ e, (g.call s t now dv false).1 = .error e := by
  unfold call
  simp only [Bool.false_eq_true, if_false]
  generalize g.probe.run s t dv = asked
  obtain ⟨outcome, s'⟩ := asked
  cases outcome with
  | error e => exact ⟨e, rfl⟩
  | ok _ => exact ⟨_, rfl⟩

/-- A getter that read a value of a device of a settled session is said to be unsupported exactly
where labels are missing. -/
theorem call_notSupported_iff (settled : s.SettledOn t) (hd : s.device dv = .ok d) {r : Reading}
    (hr : g.reading? = some r) {value : r.Value} (read : d.read t r = .ok value)
    (listed : g.probe ≠ .unlisted) (now : Nat) :
    (∃ e, (g.call s t now dv false).1 = .error e ∧ e.toStatus = .notSupported) ↔
      g.IsUnlabelledEdge d t := by
  obtain ⟨id, number, hs⟩ := selectors_of_read hd hr read listed
  rw [← get?_capabilities_eq_none_iff (settled.plain dv d hd) hr read listed,
    ← settled.supports_notSupported_iff hd g.name id number]
  unfold call Probe.run
  rw [hs]
  simp only [Bool.false_eq_true, if_false]
  generalize s.supports t dv g.name id number = asked
  obtain ⟨outcome, s'⟩ := asked
  cases outcome with
  | error e =>
    constructor
    · rintro ⟨_, h, unsupported⟩
      cases h
      exact ⟨e, rfl, unsupported⟩
    · rintro ⟨_, h, unsupported⟩
      cases h
      exact ⟨e, rfl, unsupported⟩
  | ok _ =>
    constructor
    · rintro ⟨_, h, unsupported⟩
      cases h
      cases unsupported
    · rintro ⟨_, h, _⟩
      cases h

/-- A call of a getter leaves the devices as they are, and a settled session settled. -/
theorem call_frame (g : Getter) (settled : s.SettledOn t) (now : Nat) (dv : UInt32)
    (hasPlace : Bool) :
    (g.call s t now dv hasPlace).2.inventory = s.inventory ∧
      (g.call s t now dv hasPlace).2.SettledOn t := by
  cases hasPlace with
  | true =>
    unfold call
    simp only [if_true]
    cases g.reading? with
    | none => exact ⟨rfl, settled⟩
    | some r => exact ⟨(Session.afterReading_frame s t now dv r).1, settled.afterReading now dv r⟩
  | false =>
    have asked : (g.probe.run s t dv).2.inventory = s.inventory ∧
        (g.probe.run s t dv).2.SettledOn t := by
      unfold Probe.run
      split
      · exact ⟨rfl, settled⟩
      · exact ⟨rfl, settled⟩
      · rw [Session.supports_snd]
        exact ⟨Session.inventory_capabilities s t dv, settled.capabilities_snd dv⟩
    unfold call
    simp only [Bool.false_eq_true, if_false]
    generalize g.probe.run s t dv = c at asked
    obtain ⟨outcome, s'⟩ := c
    cases outcome with
    | error _ => exact asked
    | ok _ => exact asked

end Getter

/-! ## A run of calls -/

/-- A call of a getter at a time in milliseconds. -/
structure GetterCall where
  now : Nat
  getter : Getter
  device : UInt32
  hasPlace : Bool

namespace Interface

variable {i : Interface} {s : Session} {t : Tree} {v : Inventory}

/-- The interface after calls of getters, one after the other. -/
def afterGets (i : Interface) (t : Tree) (calls : List GetterCall) : Interface :=
  calls.foldl (fun i c => (i.get t c.now c.getter c.device c.hasPlace).2) i

/-- The interface has a session with these devices that is settled on the tree. -/
def IsSettled (i : Interface) (t : Tree) (v : Inventory) : Prop :=
  ∃ s, i.registry.session = some s ∧ s.inventory = v ∧ s.SettledOn t

/-- A call of a getter is one on the session. -/
theorem get_of_session (h : i.registry.session = some s) (t : Tree) (now : Nat) (g : Getter)
    (dv : UInt32) (hasPlace : Bool) :
    i.get t now g dv hasPlace = (reply (g.call s t now dv hasPlace).1,
      { i with registry := i.registry.update (g.call s t now dv hasPlace).2 }) := by
  unfold get withSession
  rw [h]

/-- A call of a getter leaves the interface settled, with the same devices. -/
theorem IsSettled.get (settled : i.IsSettled t v) (c : GetterCall) :
    (i.get t c.now c.getter c.device c.hasPlace).2.IsSettled t v := by
  obtain ⟨s, h, rfl, settled⟩ := settled
  obtain ⟨same, after⟩ := c.getter.call_frame settled c.now c.device c.hasPlace
  rw [get_of_session h]
  exact ⟨_, rfl, same, after⟩

/-- Calls of getters leave the interface settled, with the same devices. -/
theorem IsSettled.afterGets (settled : i.IsSettled t v) (calls : List GetterCall) :
    (i.afterGets t calls).IsSettled t v := by
  induction calls generalizing i with
  | nil => exact settled
  | cons c calls ih => exact ih (settled.get c)

/-- An outcome that the caller learns a status of is an error with that status. -/
theorem reply_eq_error_iff {α : Type} {o : Outcome α} {status : Status} :
    reply o = .error status ↔ ∃ e, o = .error e ∧ e.toStatus = status := by
  cases o with
  | ok _ => exact ⟨fun h => (by cases h), fun ⟨_, h, _⟩ => (by cases h)⟩
  | error e =>
    constructor
    · intro h
      cases h
      exact ⟨e, rfl, rfl⟩
    · rintro ⟨_, h, rfl⟩
      cases h
      rfl

/-- A caller learns of a value when there is one. -/
theorem reply_eq_ok_iff {α : Type} {o : Outcome α} {value : α} :
    reply o = .ok value ↔ o = .ok value := by
  cases o with
  | ok _ => exact ⟨fun h => (by cases h; rfl), fun h => (by cases h; rfl)⟩
  | error _ => exact ⟨fun h => (by cases h), fun h => (by cases h)⟩

/-- A getter for a text that is called without room has the status of a call without a place. -/
theorem status_getText_without_room (h : i.registry.session = some s) (now : Nat) (g : Getter)
    (dv capacity : UInt32) {status : Status} :
    (i.getText t now g dv capacity false).1.status = status ↔
      (i.get t now g dv false).1 = .error status := by
  obtain ⟨e, failed⟩ := g.call_without_place s t now dv
  unfold getText
  rw [get_of_session h, failed]
  constructor
  · rintro rfl
    rfl
  · intro same
    cases same
    rfl

/-- The session that is opened on a tree, with nothing standing in for its directories, is settled
on it. -/
theorem isSettled_join {flags : InitFlags} (closed : i.registry.session = none)
    (plain : i.registry.config.drmOverride = none) (h : (i.join t flags).1 = .ok ()) :
    ∃ v, (i.join t flags).2.IsSettled t v := by
  unfold join Registry.join at h ⊢
  rw [closed] at h ⊢
  simp only at h ⊢
  cases built : Session.build t i.registry.config i.registry.user flags with
  | error _ =>
    rw [built] at h
    cases h
  | ok s => exact ⟨s.inventory, s, rfl, rfl, Session.settledOn_build plain built⟩

/-- **Asking agrees with reading, where labels are not missing.** A getter that handed a value over
is afterwards, whatever getters are called in between, said to be unsupported exactly when it is for
the temperature at the edge of a card without labels for temperatures. -/
theorem notSupported_after_reading_iff (settled : i.IsSettled t v) {g : Getter}
    (listed : g.probe ≠ .unlisted) {now : Nat} {dv : UInt32} {answer : Answer}
    (read : (i.get t now g dv true).1 = .ok answer) (calls : List GetterCall) (later : Nat)
    (capacity : UInt32) :
    (((i.afterGets t calls).get t later g dv false).1 = .error .notSupported ↔
      ∃ d, v.device dv = .ok d ∧ g.IsUnlabelledEdge d t) ∧
    (((i.afterGets t calls).getText t later g dv capacity false).1.status = .notSupported ↔
      ∃ d, v.device dv = .ok d ∧ g.IsUnlabelledEdge d t) := by
  obtain ⟨s', opened', same, settled'⟩ := settled.afterGets calls
  obtain ⟨s, opened, rfl, _⟩ := settled
  rw [get_of_session opened] at read
  obtain ⟨r, d, value, hr, hd, hv⟩ := Getter.read_of_answer (reply_eq_ok_iff.mp read)
  have hd' : s'.device dv = .ok d := by
    unfold Session.device at hd ⊢
    rwa [same]
  have asked : ((i.afterGets t calls).get t later g dv false).1 = .error .notSupported ↔
      ∃ d, s.inventory.device dv = .ok d ∧ g.IsUnlabelledEdge d t := by
    rw [get_of_session opened', reply_eq_error_iff,
      Getter.call_notSupported_iff settled' hd' hr hv listed]
    constructor
    · intro unlabelled
      exact ⟨d, hd, unlabelled⟩
    · rintro ⟨_, hd'', unlabelled⟩
      cases hd.symm.trans hd''
      exact unlabelled
  exact ⟨asked, (status_getText_without_room opened' later g dv capacity).trans asked⟩

/-! ## A sensor without a label -/

/-- A small system whose card has a sensor for a temperature, and no labels. -/
def unlabelledSystem : Tree :=
  Inventory.cardSystem [("vendor", .file (Bytes.ofText "0x1002\n")),
    ("hwmon", .directory [("hwmon0", .directory [("name", .file (Bytes.ofText "amdgpu\n")),
      ("temp1_input", .file (Bytes.ofText "40000\n"))])])]

/-- The interface once a session was opened on that system. -/
def unlabelledInterface : Interface :=
  (join ⟨Registry.ofConfig Inventory.sampleConfig 0, [], []⟩ unlabelledSystem ⟨0⟩).2

theorem exists_isSettled_unlabelledInterface :
    ∃ v, unlabelledInterface.IsSettled unlabelledSystem v := by
  cases h : (join ⟨Registry.ofConfig Inventory.sampleConfig 0, [], []⟩ unlabelledSystem ⟨0⟩).1 with
  | ok _ => exact isSettled_join rfl rfl h
  | error _ =>
    have opened : (join ⟨Registry.ofConfig Inventory.sampleConfig 0, [], []⟩ unlabelledSystem
        ⟨0⟩).1.isOk = true := by decide +kernel
    rw [h] at opened
    cases opened

/-- The temperature at the edge is read, and then said to be unsupported. -/
theorem notSupported_after_unlabelled_edge :
    ∃ v, unlabelledInterface.IsSettled unlabelledSystem v ∧
      (unlabelledInterface.get unlabelledSystem 0 (.temperature 0 0) 0 true).1.isOk = true ∧
      statusOf ((unlabelledInterface.get unlabelledSystem 0 (.temperature 0 0) 0 true).2.get
        unlabelledSystem 0 (.temperature 0 0) 0 false).1 = .notSupported := by
  obtain ⟨v, settled⟩ := exists_isSettled_unlabelledInterface
  exact ⟨v, settled, by decide +kernel, by decide +kernel⟩

/-- The vendor of the same card is read, and never said to be unsupported afterwards. -/
theorem supported_after_vendorId :
    ∃ v, unlabelledInterface.IsSettled unlabelledSystem v ∧ Getter.vendorId.probe ≠ .unlisted ∧
      ∃ answer, (unlabelledInterface.get unlabelledSystem 0 .vendorId 0 true).1 = .ok answer ∧
        ∀ calls later, ((unlabelledInterface.afterGets unlabelledSystem calls).get unlabelledSystem
          later .vendorId 0 false).1 ≠ .error .notSupported := by
  obtain ⟨v, settled⟩ := exists_isSettled_unlabelledInterface
  have listed : Getter.vendorId.probe ≠ .unlisted := by decide
  cases read : (unlabelledInterface.get unlabelledSystem 0 .vendorId 0 true).1 with
  | ok answer =>
    refine ⟨v, settled, listed, answer, rfl, fun calls later unsupported => ?_⟩
    obtain ⟨_, _, _, _, _, other, _⟩ :=
      (notSupported_after_reading_iff settled listed read calls later 0).1.mp unsupported
    cases other
  | error _ =>
    have answered : (unlabelledInterface.get unlabelledSystem 0 .vendorId 0 true).1.isOk = true := by
      decide +kernel
    rw [read] at answered
    cases answered

end Interface

end GpuManagement
