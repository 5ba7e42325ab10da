import GpuManagement.Proofs.Interface.Probe
import Mathlib.Logic.Relation

/-!
# Asking alone

A getter without a place for its value is a query. What it answers is decided by the device, by the
map of what the device supports and by the sensors that were found when the session was opened, so
neither the files nor the locks of the moment matter: the answer is `notSupported` or `invalidArgs`,
and `Getter.Lacks` tells which. Nothing here can write, as a query has no tree to give back.

A session never forgets the map of a device (`Session.Later.remembers`, from one law for each kind
of step), so what was answered from a map is answered again whatever becomes of the tree.
`Interface.isQuery_get` has all of it.
-/

namespace GpuManagement

/-- Without a place a call comes to what asking comes to, and never to a value. -/
theorem Getter.call_without_place_eq (g : Getter) (s : Session) (t : Tree) (now : Nat)
    (dv : UInt32) :
    g.call s t now dv false = ((g.probe.run s t dv).1 >>= fun _ => .fail .invalidArgs,
      (g.probe.run s t dv).2) := by
  unfold call
  simp only [Bool.false_eq_true, if_false]
  generalize g.probe.run s t dv = asked
  obtain ⟨outcome, s'⟩ := asked
  cases outcome with
  | error e => rfl
  | ok _ => rfl

/-! ## What a session remembers -/

namespace Session

variable {s s' : Session} {t : Tree} {dv : UInt32} {d : Device}

/-- What a device of the session is taken to support: what was worked out for it, or else what the
files tell now. -/
def supportOf (s : Session) (t : Tree) (dv : UInt32) (d : Device) : Capabilities :=
  (s.known.get? dv).getD (d.capabilities t)

/-- Whoever asks for what a device supports is told what the session takes it to support, and the
session keeps that. -/
theorem capabilities_of_device (hd : s.device dv = .ok d) :
    (s.capabilities t dv).1 = .ok (s.supportOf t dv d) ∧
      (s.capabilities t dv).2.known.get? dv = some (s.supportOf t dv d) := by
  unfold capabilities supportOf
  rw [hd]
  cases hm : s.known.get? dv with
  | some m => exact ⟨rfl, hm⟩
  | none =>
    refine ⟨rfl, ?_⟩
    simp only [Table.get?_insert, if_true, Option.getD_none]

/-- A device that is not there is a wrong argument. -/
theorem toStatus_of_device_error {e : Error} (h : s.device dv = .error e) :
    e.toStatus = .invalidArgs := by
  rcases Outcome.bind_eq_error.mp h with h | ⟨_, _, h⟩
  · obtain ⟨_, rfl⟩ := Outcome.ofOption_eq_error.mp h
    rfl
  · cases h

/-- A call is looked up in what the device supports. -/
theorem supports_fst (s : Session) (t : Tree) (dv : UInt32) (call : String)
    (variant sensor : UInt64) :
    (s.supports t dv call variant sensor).1 =
      (s.capabilities t dv).1 >>= fun m => m.check call variant sensor := by
  unfold supports
  generalize s.capabilities t dv = c
  obtain ⟨outcome, s'⟩ := c
  cases outcome with
  | error _ => rfl
  | ok m => rfl

/-- The number of a labelled sensor is told without a lock and without a file. -/
theorem read_temperatureIndex (s : Session) (t : Tree) (dv : UInt32) (sensor : TempSensor) :
    s.read t dv (.temperatureIndex sensor) =
      s.device dv >>= fun d => d.requireMonitor >>= fun m =>
        Monitor.indexOf m.temperatures sensor := by
  cases hd : s.device dv with
  | ok d => exact read_of_free rfl rfl hd
  | error e =>
    unfold read
    rw [hd]
    rfl

theorem read_voltageIndex (s : Session) (t : Tree) (dv : UInt32) (sensor : VoltSensor) :
    s.read t dv (.voltageIndex sensor) =
      s.device dv >>= fun d => d.requireMonitor >>= fun m =>
        Monitor.indexOf m.voltages sensor := by
  cases hd : s.device dv with
  | ok d => exact read_of_free rfl rfl hd
  | error e =>
    unfold read
    rw [hd]
    rfl

/-- A session has the devices of another, and knows all that the other knew of them. -/
structure Remembers (s' s : Session) : Prop where
  inventory : s'.inventory = s.inventory
  known : ∀ dv m, s.known.get? dv = some m → s'.known.get? dv = some m

theorem Remembers.refl (s : Session) : s.Remembers s := ⟨rfl, fun _ _ h => h⟩

/-- Working out what a device supports forgets nothing. -/
theorem remembers_capabilities (s : Session) (t : Tree) (dv : UInt32) :
    (s.capabilities t dv).2.Remembers s := by
  refine ⟨s.inventory_capabilities t dv, fun dv' m hm => ?_⟩
  unfold capabilities
  cases s.device dv with
  | error _ => exact hm
  | ok d =>
    cases hk : s.known.get? dv with
    | some _ => exact hm
    | none =>
      simp only [Table.get?_insert]
      split
      · rename_i same
        rw [same, hm] at hk
        cases hk
      · exact hm

theorem remembers_call (g : Getter) (s : Session) (t : Tree) (now : Nat) (dv : UInt32)
    (hasPlace : Bool) : (g.call s t now dv hasPlace).2.Remembers s := by
  cases hasPlace with
  | true =>
    unfold Getter.call
    simp only [if_true]
    cases g.reading? with
    | none => exact .refl s
    | some r =>
      obtain ⟨inventory, known⟩ := afterReading_frame s t now dv r
      exact ⟨inventory, fun _ _ hm => (by rwa [known])⟩
  | false =>
    rw [Getter.call_without_place_eq]
    unfold Probe.run
    split
    · exact .refl s
    · exact .refl s
    · rw [supports_snd]
      exact remembers_capabilities s t dv

/-- A step of a session: whatever is asked of it, on whatever tree, leaves it as one of these. -/
inductive Next (s : Session) : Session → Prop where
  | hold {dv : UInt32} {s' : Session} (h : s.hold dv = .ok s') : Next s s'
  | release : Next s s.release
  | call (g : Getter) (t : Tree) (now : Nat) (dv : UInt32) (hasPlace : Bool) :
    Next s (g.call s t now dv hasPlace).2
  | header (t : Tree) (now : Nat) (dv : UInt32) : Next s (s.metricsHeader t now dv).2
  | supports (t : Tree) (dv : UInt32) (call : String) (variant sensor : UInt64) :
    Next s (s.supports t dv call variant sensor).2
  | walk (t : Tree) (dv : UInt32) : Next s (s.walk t dv).2
  /-- Events are started, awaited and stopped. -/
  | notifier (n : EventNotifier) : Next s { s with notifier := n }

/-- A step forgets nothing. -/
theorem Next.remembers (h : s.Next s') : s'.Remembers s := by
  cases h with
  | hold h =>
    obtain ⟨_, _, h⟩ := Outcome.bind_eq_ok.mp h
    cases h
    exact ⟨rfl, fun _ _ hm => hm⟩
  | release => exact ⟨rfl, fun _ _ hm => hm⟩
  | call g t now dv hasPlace => exact remembers_call g s t now dv hasPlace
  | header t now dv =>
    unfold metricsHeader
    cases s.device dv with
    | error _ => exact .refl s
    | ok d => exact ⟨rfl, fun _ _ hm => hm⟩
  | supports t dv call variant sensor =>
    rw [supports_snd]
    exact remembers_capabilities s t dv
  | walk t dv =>
    have asked := remembers_capabilities s t dv
    unfold Session.walk
    generalize s.capabilities t dv = c at asked
    obtain ⟨outcome, s'⟩ := c
    cases outcome with
    | error _ => exact asked
    | ok _ => exact asked
  | notifier n => exact ⟨rfl, fun _ _ hm => hm⟩

/-- What a session can become while it is open. -/
def Later (s s' : Session) : Prop := Relation.ReflTransGen Next s s'

/-- **A session forgets nothing.** -/
theorem Later.remembers (h : s.Later s') : s'.Remembers s := by
  induction h with
  | refl => exact .refl s
  | tail _ next ih =>
    have step := next.remembers
    exact ⟨step.inventory.trans ih.inventory, fun dv m hm => step.known dv m (ih.known dv m hm)⟩

end Session

/-- Asking a map, and no more: the call is not there, or an argument is wrong, if only because there
is no place for a value. -/
theorem Capabilities.error_of_check {α : Type} (m : Capabilities) (call : String)
    (variant sensor : UInt64) :
    ∃ e, (m.check call variant sensor >>= fun _ => (.fail .invalidArgs : Outcome α)) = .error e ∧
      (e.toStatus = .notSupported ∨ e.toStatus = .invalidArgs) ∧
      (e.toStatus = .notSupported ↔ m.get? call = none) := by
  unfold check
  cases m.get? call with
  | none => exact ⟨_, rfl, .inl rfl, fun _ => rfl, fun _ => rfl⟩
  | some entry =>
    simp only
    split
    · exact ⟨_, rfl, .inr rfl, fun h => (by cases h), fun h => (by cases h)⟩
    · exact ⟨_, rfl, .inr rfl, fun h => (by cases h), fun h => (by cases h)⟩

namespace Device

/-- The device was found without a sensor of a kind that is labelled: it has no sensors, or none
with the label. -/
def IsWithout {α : Type} (d : Device) (sensors : Monitor → List (UInt32 × α))
    (sensor? : Option α) : Prop :=
  ∀ m index sensor, d.monitor = some m → sensor? = some sensor → (index, sensor) ∉ sensors m

/-- A labelled sensor is found, or the device is without. -/
theorem indexOf_cases {α : Type} [DecidableEq α] (d : Device)
    (sensors : Monitor → List (UInt32 × α)) (sensor : α) :
    (d.IsWithout sensors (some sensor) ∧
      (d.requireMonitor >>= fun m => Monitor.indexOf (sensors m) sensor) =
        .fail .notSupported) ∨
    ∃ index m, d.monitor = some m ∧ (index, sensor) ∈ sensors m ∧
      (d.requireMonitor >>= fun m => Monitor.indexOf (sensors m) sensor) = .ok index := by
  unfold requireMonitor IsWithout
  cases hm : d.monitor with
  | none => exact .inl ⟨fun m index sensor h => (by cases h), rfl⟩
  | some m =>
    cases hi : Monitor.indexOf (sensors m) sensor with
    | ok index => exact .inr ⟨index, m, rfl, Monitor.mem_of_indexOf hi, hi⟩
    | error e =>
      obtain ⟨none, rfl⟩ := Monitor.indexOf_eq_error_iff.mp hi
      refine .inl ⟨fun m' index sensor' hm' same => ?_, hi⟩
      cases hm'
      cases same
      exact none index

end Device

namespace Getter

variable {g : Getter} {s s' : Session} {t u : Tree} {dv : UInt32} {d : Device}

/-! ## What a query is decided by -/

/-- The getter has a row in the tables of calls. -/
def IsListed (g : Getter) : Prop :=
  g.name ∈ (Requirement.ofDevice ++ Requirement.ofMonitor).map Requirement.call

theorem isListed_of_attribute (g' : Getter) {r : Reading} {a : Attribute}
    (same : g'.name = g.name) (hr : g'.reading? = some r) (ha : r.attribute? = some a) :
    g.IsListed := by
  obtain ⟨row, hrow, call, _⟩ := exists_row_of_attribute hr ha
  exact List.mem_map.mpr ⟨row, List.mem_append_left _ hrow, call.trans same⟩

theorem isListed_of_numbered {r : Reading} {files : List SensorFile} {sensor : UInt32}
    (hr : g.reading? = some r) (hf : r.numbered? = some (files, sensor)) : g.IsListed :=
  List.mem_map.mpr ⟨_, List.mem_append_right _ (row_of_numbered hr hf).1, rfl⟩

/-- All getters but one have a row. -/
theorem isListed_iff : g.IsListed ↔ g ≠ .maxPower := by
  constructor
  · rintro listed rfl
    exact absurd listed (by unfold IsListed; decide +kernel)
  · intro other
    cases g with
    | maxPower => exact absurd rfl other
    | fanRpms _ | fanSpeed _ | fanSpeedMax _ | powerAverage _ | powerCap _ | powerCapRange _ =>
      exact isListed_of_numbered rfl rfl
    | clockTable _ => exact isListed_of_attribute (.clockTable 0) rfl rfl rfl
    | memoryTotal _ => exact isListed_of_attribute (.memoryTotal 0) rfl rfl rfl
    | memoryUsed _ => exact isListed_of_attribute (.memoryUsed 0) rfl rfl rfl
    | firmwareVersion _ => exact isListed_of_attribute (.firmwareVersion 0) rfl rfl rfl
    | errorCount _ => exact isListed_of_attribute (.errorCount 1) rfl rfl rfl
    | pciId | renderMinor | temperature _ _ | voltage _ _ =>
      simp only [IsListed, name, Requirement.ofDevice, Requirement.ofMonitor,
        Requirement.ofAttributes, Requirement.plain, List.map_append, List.map_cons,
        List.mem_append, List.mem_cons, true_or, or_true]
    | _ => exact isListed_of_attribute _ rfl rfl rfl

/-- The number of a labelled sensor, where the getter is for one, is that of a kind of sensor. -/
def HasKnownSensor : Getter → Prop
  | temperature number _ => (TempSensor.ofNumber? number).isSome = true
  | voltage number _ => (VoltSensor.ofNumber? number).isSome = true
  | _ => True

/-- The getter is for a labelled sensor that the device was found without. -/
def LacksSensor (d : Device) : Getter → Prop
  | temperature number _ => d.IsWithout Monitor.temperatures (TempSensor.ofNumber? number)
  | voltage number _ => d.IsWithout Monitor.voltages (VoltSensor.ofNumber? number)
  | _ => False

/-- What the getter needs is missing: its name in the map, or its sensor. -/
def Lacks (g : Getter) (d : Device) (m : Capabilities) : Prop :=
  m.get? g.name = none ∨ g.LacksSensor d

/-- How a getter comes to be asked about: a wrong argument, a sensor that is missing, or its name
with a variant and a sensor. -/
inductive Selects (g : Getter) (s : Session) (dv : UInt32) :
    Outcome (Option (String × UInt64 × UInt64)) → Prop where
  | wrong {e : Error} (h : g.HasKnownSensor → ∀ d, s.device dv ≠ .ok d)
      (told : e.toStatus = .invalidArgs) : Selects g s dv (.error e)
  | missing {d : Device} {e : Error} (known : g.HasKnownSensor) (device : s.device dv = .ok d)
      (lacks : g.LacksSensor d) (told : e.toStatus = .notSupported) : Selects g s dv (.error e)
  | named (id number : UInt64) (known : g.HasKnownSensor)
      (there : ∀ d, s.device dv = .ok d → ¬ g.LacksSensor d) :
      Selects g s dv (.ok (some (g.name, id, number)))

/-- A getter for a labelled sensor is asked about once the sensor was found. -/
theorem selects_labelled {α : Type} [DecidableEq α] (sensors : Monitor → List (UInt32 × α))
    (sensor? : Option α) (known : g.HasKnownSensor ↔ sensor?.isSome = true)
    (lacks : ∀ d, g.LacksSensor d ↔ d.IsWithout sensors sensor?) (id : UInt64)
    {find : α → Outcome UInt32}
    (hfind : ∀ sensor, find sensor = s.device dv >>= fun d => d.requireMonitor >>= fun m =>
      Monitor.indexOf (sensors m) sensor) :
    g.Selects s dv (do
      let sensor ← Outcome.ofOption .invalidArgs sensor?
      let index ← find sensor
      .ok (some (g.name, id, UInt32.toUInt64 index))) := by
  cases sensor? with
  | none => exact .wrong (fun h => (by cases known.mp h)) rfl
  | some sensor =>
    have known := known.mpr rfl
    have found := hfind sensor
    show g.Selects s dv (find sensor >>= fun index =>
      .ok (some (g.name, id, UInt32.toUInt64 index)))
    cases hd : s.device dv with
    | error e =>
      rw [found, hd]
      refine .wrong (fun _ d h => ?_) (Session.toStatus_of_device_error hd)
      rw [hd] at h
      cases h
    | ok d =>
      have found : find sensor =
          d.requireMonitor >>= fun m => Monitor.indexOf (sensors m) sensor := by
        rw [found, hd]
        rfl
      rcases d.indexOf_cases sensors sensor with ⟨without, h⟩ | ⟨index, m, hm, there, h⟩
      · rw [found, h]
        exact .missing known hd ((lacks d).mpr without) rfl
      · rw [found, h]
        refine .named _ _ known fun d' hd' none => ?_
        cases hd.symm.trans hd'
        exact (lacks d).mp none m index sensor hm rfl there

theorem selects_selectors (listed : g.IsListed) (s : Session) (t : Tree) (dv : UInt32) :
    g.Selects s dv (g.probe.selectors s t dv) := by
  cases g with
  | temperature number metric =>
    exact selects_labelled Monitor.temperatures _ Iff.rfl (fun _ => Iff.rfl) metric.toUInt64
      (s.read_temperatureIndex t dv)
  | voltage number metric =>
    exact selects_labelled Monitor.voltages _ Iff.rfl (fun _ => Iff.rfl) metric.toUInt64
      (s.read_voltageIndex t dv)
  | maxPower => exact absurd rfl (isListed_iff.mp listed)
  | _ => exact .named _ _ trivial fun _ _ lacks => lacks

/-! ## One query -/

/-- **What a query answers.** -/
theorem call_error (listed : g.IsListed) (s : Session) (t : Tree) (now : Nat)
    (dv : UInt32) :
    ∃ e, (g.call s t now dv false).1 = .error e ∧
      (e.toStatus = .notSupported ∨ e.toStatus = .invalidArgs) ∧
      (e.toStatus = .notSupported ↔
        ∃ d, s.device dv = .ok d ∧ g.HasKnownSensor ∧ g.Lacks d (s.supportOf t dv d)) := by
  rw [call_without_place_eq]
  unfold Probe.run
  have selects := selects_selectors listed s t dv
  generalize g.probe.selectors s t dv = selected at selects
  cases selects with
  | @wrong e h told =>
    refine ⟨e, rfl, .inr told, fun unsupported => ?_, fun ⟨d, hd, known, _⟩ =>
      absurd hd (h known d)⟩
    rw [told] at unsupported
    cases unsupported
  | @missing d e known hd lacks told =>
    exact ⟨e, rfl, .inl told, fun _ => ⟨d, hd, known, .inr lacks⟩, fun _ => told⟩
  | named id number known there =>
    simp only [Session.supports_fst]
    cases hd : s.device dv with
    | error e =>
      have told := Session.toStatus_of_device_error hd
      refine ⟨e, ?_, .inr told, fun unsupported => ?_, fun ⟨_, h, _⟩ => (by cases h)⟩
      · unfold Session.capabilities
        rw [hd]
        rfl
      · rw [told] at unsupported
        cases unsupported
    | ok d =>
      rw [(s.capabilities_of_device hd).1]
      obtain ⟨e, h, told, absent⟩ := (s.supportOf t dv d).error_of_check g.name id number
      refine ⟨e, h, told, absent.trans ⟨fun none => ⟨d, rfl, known, .inl none⟩, ?_⟩⟩
      rintro ⟨_, same, _, none | lacks⟩
      · cases same
        exact none
      · cases same
        exact absurd lacks (there d hd)

/-- A query whose sensor is there, where it is for a labelled one, leaves the map of the device with
the session. -/
theorem known_after_call (listed : g.IsListed) (hd : s.device dv = .ok d)
    (known : g.HasKnownSensor) (there : ¬ g.LacksSensor d) (t : Tree) (now : Nat) :
    (g.call s t now dv false).2.known.get? dv = some (s.supportOf t dv d) := by
  rw [call_without_place_eq]
  unfold Probe.run
  have selects := selects_selectors listed s t dv
  generalize g.probe.selectors s t dv = selected at selects
  cases selects with
  | wrong h _ => exact absurd hd (h known d)
  | missing _ hd' lacks _ =>
    cases hd.symm.trans hd'
    exact absurd lacks there
  | named id number _ _ =>
    simp only [Session.supports_snd]
    exact (s.capabilities_of_device hd).2

/-- Whom a query is put to does not depend on the files. -/
theorem selectors_eq (p : Probe) (same : s'.device dv = s.device dv) :
    p.selectors s' u dv = p.selectors s t dv := by
  cases p with
  | temperature number metric =>
    simp only [Probe.selectors, Session.read_temperatureIndex, same]
  | voltage number metric =>
    simp only [Probe.selectors, Session.read_voltageIndex, same]
  | _ => rfl

/-- A session that remembers another answers from the map that the other had, whatever the tree. -/
theorem call_eq_of_remembers (g : Getter) (h : s'.Remembers s) {m : Capabilities}
    (derived : s.known.get? dv = some m) (now now' : Nat) :
    (g.call s' u now' dv false).1 = (g.call s t now dv false).1 := by
  have same : s'.device dv = s.device dv := by
    unfold Session.device
    rw [h.inventory]
  have answered : (s'.capabilities u dv).1 = (s.capabilities t dv).1 := by
    unfold Session.capabilities
    rw [same, derived, h.known dv m derived]
    cases s.device dv with
    | error _ => rfl
    | ok _ => rfl
  rw [call_without_place_eq, call_without_place_eq]
  unfold Probe.run
  rw [selectors_eq g.probe same (t := t)]
  split
  · rfl
  · rfl
  · rw [Session.supports_fst, Session.supports_fst, answered]

end Getter

/-! ## Queries at the interface -/

namespace Interface

variable {i : Interface} {s : Session} {g : Getter}

/-- A getter that is called without a place is a query: it is answered with `notSupported` where
what it needs is missing and else with `invalidArgs`, for texts as for values; a query that came as
far as the map of its device leaves it with the session; and from then on it is answered alike, at
any time, on any tree, by whatever the session has become. -/
structure IsQuery (i : Interface) (s : Session) (g : Getter) (dv : UInt32) : Prop where
  status : ∀ t now, (i.get t now g dv false).1 = .error .notSupported ∨
    (i.get t now g dv false).1 = .error .invalidArgs
  notSupported_iff : ∀ t now, (i.get t now g dv false).1 = .error .notSupported ↔
    ∃ d, s.device dv = .ok d ∧ g.HasKnownSensor ∧ g.Lacks d (s.supportOf t dv d)
  text : ∀ t now capacity, (i.getText t now g dv capacity false).1 =
    ⟨statusOf (i.get t now g dv false).1, []⟩
  kept : ∀ t now d, s.device dv = .ok d → g.HasKnownSensor → ¬ g.LacksSensor d →
    ∃ s', (i.get t now g dv false).2.registry.session = some s' ∧
      s'.known.get? dv = some (s.supportOf t dv d)
  stable : ∀ (m : Capabilities) (i' : Interface) (s' : Session), s.known.get? dv = some m →
    s.Later s' → i'.registry.session = some s' →
    ∀ t u now now', (i'.get u now' g dv false).1 = (i.get t now g dv false).1

/-- **A getter without a place for its value is a query**, if it has a row at all. -/
theorem isQuery_get (opened : i.registry.session = some s) (listed : g.IsListed)
    (dv : UInt32) : i.IsQuery s g dv := by
  refine ⟨fun t now => ?_, fun t now => ?_, fun t now capacity => ?_,
    fun t now d hd known there => ?_, fun m i' s' derived later opened' t u now now' => ?_⟩
  · obtain ⟨e, h, told, _⟩ := g.call_error listed s t now dv
    rw [get_of_session opened, h]
    exact told.imp (congrArg Except.error) (congrArg Except.error)
  · obtain ⟨e, h, _, unsupported⟩ := g.call_error listed s t now dv
    rw [← unsupported, get_of_session opened, h]
    exact ⟨fun same => Except.error.inj same, fun same => congrArg Except.error same⟩
  · obtain ⟨e, h, _, _⟩ := g.call_error listed s t now dv
    unfold getText
    rw [get_of_session opened, h]
    rfl
  · rw [get_of_session opened]
    exact ⟨_, rfl, Getter.known_after_call listed hd known there t now⟩
  · rw [get_of_session opened, get_of_session opened',
      Getter.call_eq_of_remembers g later.remembers derived now now']

/-- The vendor of a small system's card is asked for. -/
theorem isQuery_vendorId :
    ∃ s, unlabelledInterface.registry.session = some s ∧ Getter.vendorId.IsListed ∧
      unlabelledInterface.IsQuery s .vendorId 0 := by
  obtain ⟨_, s, opened, _⟩ := exists_isSettled_unlabelledInterface
  have listed : Getter.vendorId.IsListed := Getter.isListed_iff.mpr (by decide)
  exact ⟨s, opened, listed, isQuery_get opened listed 0⟩

end Interface

end GpuManagement
