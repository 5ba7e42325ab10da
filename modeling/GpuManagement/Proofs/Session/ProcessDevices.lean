import GpuManagement.Proofs.Session.Basic
import GpuManagement.Proofs.Session.Usage

/-!
# The devices of a process

A process is on the devices whose cards its queues are on. The driver numbers the cards and a
session its devices, so each card is looked up, and a card that the session has no device for is
left out. When the devices have different numbers of the driver the lookup goes both ways
(`deviceOfCard?_eq_some_iff`): nothing is lost on the way and no device comes twice, however many
queues are on it (`areDevicesOf_processDevices`).

A queue that cannot be read tells nothing and is passed over. One that can be read and tells no
number leaves the whole call without an answer.
-/

namespace GpuManagement.Session

open ProcessUsage

variable {s : Session} {t shown : Tree} {config : Config} {flags : InitFlags} {pid : UInt32}

/-- A card is looked up to the device that has its number. -/
theorem deviceOfCard?_eq_some_iff (found : Inventory.discover shown config flags = .ok s.inventory)
    (distinct : (s.inventory.boundDevices.map Device.gpuId).Nodup) {card : UInt64} {dv : UInt32} :
    s.inventory.deviceOfCard? card = some dv ↔ ∃ d, s.device dv = .ok d ∧ d.gpuId = card := by
  have small := Inventory.length_bound_le found
  constructor
  · intro h
    obtain ⟨b, hb, same⟩ := Inventory.exists_bound_of_deviceOfCard? small h
    exact ⟨b.device, device_eq_ok_iff.mpr ⟨b, hb, rfl⟩, same⟩
  · rintro ⟨d, hd, rfl⟩
    obtain ⟨b, hb, rfl⟩ := device_eq_ok_iff.mp hd
    have there : s.inventory.boundDevices[dv.toNat]? = some b.device := by
      unfold Inventory.boundDevices
      rw [List.getElem?_map, hb]
      rfl
    obtain ⟨index, h, same⟩ := (Inventory.deviceOfCard?_spec small distinct).1 _ _ there
    rwa [UInt32.toNat_inj.mp same] at h

/-- Two cards are not looked up to one device. -/
theorem deviceOfCard?_injective (found : Inventory.discover shown config flags = .ok s.inventory)
    {card card' : UInt64} {dv : UInt32} (h : s.inventory.deviceOfCard? card = some dv)
    (h' : s.inventory.deviceOfCard? card' = some dv) : card = card' := by
  have small := Inventory.length_bound_le found
  obtain ⟨b, hb, rfl⟩ := Inventory.exists_bound_of_deviceOfCard? small h
  obtain ⟨b', hb', rfl⟩ := Inventory.exists_bound_of_deviceOfCard? small h'
  cases hb.symm.trans hb'
  rfl

theorem processDevices_eq_ok_iff {ds : List UInt32} : s.processDevices t pid = .ok ds ↔
    ∃ cs, cards t s.config.processRoot pid = .ok cs ∧
      cs.filterMap s.inventory.deviceOfCard? = ds := by
  unfold processDevices
  simp only [Outcome.bind_eq_ok, Except.ok.injEq]

/-- Only the cards can be refused, the lookup cannot. -/
theorem processDevices_failsWith_iff {status : Status} :
    (s.processDevices t pid).FailsWith status ↔
      (cards t s.config.processRoot pid).FailsWith status := by
  constructor
  · intro h
    rcases h.of_bind with h | ⟨_, _, h⟩
    · exact h
    · exact absurd h (Outcome.FailsWith.ok _)
  · exact fun h => h.bind _

/-- What a session tells of the devices of a process. -/
structure AreDevicesOf (s : Session) (t : Tree) (pid : UInt32) : Prop where
  nodup : ∀ ds, s.processDevices t pid = .ok ds → ds.Nodup
  mem_iff : ∀ ds, s.processDevices t pid = .ok ds → ∀ dv, dv ∈ ds ↔
    ∃ d, s.device dv = .ok d ∧ HasQueueOn t s.config.processRoot pid d.gpuId
  unexpectedData_iff : (s.processDevices t pid).FailsWith .unexpectedData ↔
    t.isDirectory (queues s.config.processRoot pid) = true ∧
      ∃ name number word, Files.entryNumber? name = some number ∧
        Files.readWord t (queueFile s.config.processRoot pid name) = .ok word ∧
        Text.readU64? 10 word = none
  notFound_iff : (s.processDevices t pid).FailsWith .notFound ↔
    t.isDirectory (queues s.config.processRoot pid) = false

/-- **The devices of a process** are those with the cards that its queues are on, each once, as long
as the devices of the session have different numbers of the driver. -/
theorem areDevicesOf_processDevices
    (found : Inventory.discover shown config flags = .ok s.inventory)
    (distinct : (s.inventory.boundDevices.map Device.gpuId).Nodup) (t : Tree) (pid : UInt32) :
    AreDevicesOf s t pid := by
  constructor
  · intro ds h
    obtain ⟨cs, hc, rfl⟩ := processDevices_eq_ok_iff.mp h
    exact (mem_cards hc).1.filterMap fun _ _ _ => deviceOfCard?_injective found
  · intro ds h dv
    obtain ⟨cs, hc, rfl⟩ := processDevices_eq_ok_iff.mp h
    simp only [List.mem_filterMap, (mem_cards hc).2, deviceOfCard?_eq_some_iff found distinct]
    constructor
    · rintro ⟨_, on, d, hd, rfl⟩
      exact ⟨d, hd, on⟩
    · rintro ⟨d, hd, on⟩
      exact ⟨d.gpuId, on, d, hd, rfl⟩
  · rw [processDevices_failsWith_iff, cards_unexpectedData_iff]
  · rw [processDevices_failsWith_iff, cards_notFound_iff]

/-! ## Several queues on a card -/

/-- The devices of a session are those that were found when it was opened. -/
theorem discover_of_build {user : UInt32} (h : build t config user flags = .ok s) :
    Inventory.discover t config flags = .ok s.inventory := by
  unfold build at h
  split at h
  · rename_i found
    cases h
    exact found
  all_goals cases h

/-- The queues of a process by their names, with what their files say. -/
def queueSystem (queues : List (String × String)) : Tree :=
  .directory [("proc", .directory [("100", .directory [("queues", .directory
    (queues.map fun queue =>
      (queue.1, .directory [("gpuid", .file (Bytes.ofText queue.2))])))])])]

/-- Two queues on one card, one on another card, one on a card that no device stands for, and one
under a name that is no number. -/
def sharedQueues : Tree :=
  queueSystem [("0", "22\n"), ("1", "21"), ("2", " 22 23"), ("3", "24"), ("last", "none")]

/-- Each of two devices is told once. -/
theorem areDevicesOf_processDevices_sharedQueues :
    ∃ s, build (usageSystem splitAttributes) usageConfig 0 ⟨1⟩ = .ok s ∧
      s.processDevices sharedQueues 100 = .ok [0, 1] ∧ AreDevicesOf s sharedQueues 100 := by
  have tells : (build (usageSystem splitAttributes) usageConfig 0 ⟨1⟩).toOption.map (fun s =>
      (s.inventory.boundDevices.map Device.gpuId, (s.processDevices sharedQueues 100).toOption)) =
        some ([21, 22], some [0, 1]) := by
    decide +kernel
  obtain ⟨s, built, told⟩ := Outcome.exists_of_toOption_map tells
  obtain ⟨numbers, devices⟩ := Prod.mk.inj told
  refine ⟨s, built, Outcome.toOption_eq_some.mp devices,
    areDevicesOf_processDevices (discover_of_build built) ?_ sharedQueues 100⟩
  rw [numbers]
  decide

end GpuManagement.Session
