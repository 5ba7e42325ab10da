import GpuManagement.Proofs.Device.Support
import GpuManagement.Proofs.Topology.Inventory
import GpuManagement.Session.Basic

/-!
# Devices of a session

Calls find their device by its place in the inventory, whatever lock they take for it. A session that
is settled on a tree (`SettledOn`) knows nothing of its devices that the tree would not tell again:
opening a session settles it, and asking what a device supports leaves it so.
-/

namespace GpuManagement.Session

variable {s : Session} {t : Tree} {dv : UInt32} {d : Device}

/-! ## Finding a device -/

/-- A device is the one in its place of the inventory. -/
theorem device_eq_ok_iff :
    s.device dv = .ok d ↔ ∃ b, s.inventory.bound[dv.toNat]? = some b ∧ b.device = d := by
  constructor
  · intro h
    obtain ⟨b, hb, h⟩ := Outcome.bind_eq_ok.mp h
    cases h
    exact ⟨b, Outcome.ofOption_eq_ok.mp hb, rfl⟩
  · rintro ⟨b, hb, rfl⟩
    exact Outcome.bind_eq_ok.mpr ⟨b, Outcome.ofOption_eq_ok.mpr hb, rfl⟩

/-- A device that is locked is a device. -/
theorem device_of_lockedDevice (h : s.lockedDevice dv = .ok d) : s.device dv = .ok d := by
  obtain ⟨d', hd, h⟩ := Outcome.bind_eq_ok.mp h
  split at h
  · cases h
  · cases h
    exact hd

/-- A reading that succeeded is one of a device. -/
theorem read_eq_ok {r : Reading} {value : r.Value} (h : s.read t dv r = .ok value) :
    ∃ d, s.device dv = .ok d ∧ d.read t r = .ok value := by
  obtain ⟨_, _, h⟩ := Outcome.bind_eq_ok.mp h
  change (if r.needsLock = true then s.lockedDevice dv >>= fun d => d.read t r
    else s.device dv >>= fun d => d.read t r) = _ at h
  split at h
  · obtain ⟨d, hd, h⟩ := Outcome.bind_eq_ok.mp h
    exact ⟨d, device_of_lockedDevice hd, h⟩
  · obtain ⟨d, hd, h⟩ := Outcome.bind_eq_ok.mp h
    exact ⟨d, hd, h⟩

/-- A reading that needs no lock and no check is one of the device. -/
theorem read_of_free {r : Reading} (free : r.needsLock = false)
    (checked : s.checkReading dv r = .ok ()) (hd : s.device dv = .ok d) :
    s.read t dv r = d.read t r := by
  unfold read
  rw [checked, free, hd]
  rfl

/-! ## Opening a session -/

/-- The session is settled on a tree: its devices were made from the tree with nothing standing in
for their directories, and what is remembered of them was worked out from it. -/
structure SettledOn (s : Session) (t : Tree) : Prop where
  plain : ∀ dv d, s.device dv = .ok d → d.IsPlain t
  known : ∀ dv d m, s.device dv = .ok d → s.known.get? dv = some m → m = d.capabilities t

/-- A session is settled on the tree that it was opened on. -/
theorem settledOn_build {config : Config} {user : UInt32} {flags : InitFlags}
    (plain : config.drmOverride = none) (h : build t config user flags = .ok s) :
    s.SettledOn t := by
  unfold build at h
  cases hv : Inventory.discover t config flags with
  | error e =>
    rw [hv] at h
    cases e <;> cases h
  | ok v =>
    rw [hv] at h
    cases h
    refine ⟨fun dv d hd => ?_, fun dv d m _ hm => (by cases hm)⟩
    obtain ⟨b, hb, rfl⟩ := device_eq_ok_iff.mp hd
    obtain ⟨nodes, cs, _, _, bound⟩ := Inventory.bound_of_discover hv
    rw [bound] at hb
    obtain ⟨c, _, n, _, _, made, _⟩ := Inventory.mem_bind (List.mem_of_getElem? hb)
    exact ⟨config, _, _, _, n, plain, made⟩

/-- What a device of a settled session supports is what its files support now. -/
theorem SettledOn.capabilities_fst (settled : s.SettledOn t) (hd : s.device dv = .ok d) :
    (s.capabilities t dv).1 = .ok (d.capabilities t) := by
  unfold capabilities
  rw [hd]
  cases hm : s.known.get? dv with
  | none => rfl
  | some m => rw [settled.known dv d m hd hm]

/-- Asking what a device supports leaves the devices as they are. -/
@[simp] theorem inventory_capabilities (s : Session) (t : Tree) (dv : UInt32) :
    (s.capabilities t dv).2.inventory = s.inventory := by
  unfold capabilities
  cases s.device dv with
  | error _ => rfl
  | ok d =>
    cases hm : s.known.get? dv with
    | some m => rfl
    | none => rfl

/-- Asking what a device supports leaves the session settled. -/
theorem SettledOn.capabilities_snd (settled : s.SettledOn t) (dv : UInt32) :
    (s.capabilities t dv).2.SettledOn t := by
  unfold capabilities
  cases hd : s.device dv with
  | error _ => exact settled
  | ok d =>
    cases hm : s.known.get? dv with
    | some m => exact settled
    | none =>
      refine ⟨settled.plain, fun dv' d' m' hd' hm' => ?_⟩
      simp only [Table.get?_insert] at hm'
      split at hm'
      · rename_i same
        subst same
        cases hm'
        cases hd.symm.trans hd'
        rfl
      · exact settled.known dv' d' m' hd' hm'

/-- A call is said to be unsupported where what the device supports does not have it. -/
theorem SettledOn.supports_notSupported_iff (settled : s.SettledOn t) (hd : s.device dv = .ok d)
    (call : String) (variant sensor : UInt64) :
    (∃ e, (s.supports t dv call variant sensor).1 = .error e ∧ e.toStatus = .notSupported) ↔
      (d.capabilities t).get? call = none := by
  have fst := settled.capabilities_fst hd
  unfold supports
  generalize hc : s.capabilities t dv = c at fst
  obtain ⟨outcome, s'⟩ := c
  cases fst
  exact Capabilities.check_notSupported_iff

/-- Being asked about a call leaves of a session what asking for its capabilities does. -/
theorem supports_snd (s : Session) (t : Tree) (dv : UInt32) (call : String)
    (variant sensor : UInt64) :
    (s.supports t dv call variant sensor).2 = (s.capabilities t dv).2 := by
  unfold supports
  generalize s.capabilities t dv = c
  obtain ⟨outcome, s'⟩ := c
  cases outcome with
  | error _ => rfl
  | ok m => rfl

/-- A reading leaves the devices as they are, and what is known of them. -/
theorem afterReading_frame (s : Session) (t : Tree) (now : Nat) (dv : UInt32) (r : Reading) :
    (s.afterReading t now dv r).inventory = s.inventory ∧
      (s.afterReading t now dv r).known = s.known := by
  unfold afterReading
  split
  · unfold metricsHeader
    cases s.device dv with
    | error _ => exact ⟨rfl, rfl⟩
    | ok d => exact ⟨rfl, rfl⟩
  · exact ⟨rfl, rfl⟩

theorem SettledOn.afterReading (settled : s.SettledOn t) (now : Nat) (dv : UInt32) (r : Reading) :
    (s.afterReading t now dv r).SettledOn t := by
  obtain ⟨inventory, known⟩ := afterReading_frame s t now dv r
  refine ⟨fun dv' d hd => settled.plain dv' d ?_, fun dv' d m hd hm => settled.known dv' d m ?_ ?_⟩
  · unfold device at hd ⊢
    rwa [inventory] at hd
  · unfold device at hd ⊢
    rwa [inventory] at hd
  · rwa [known] at hm

end GpuManagement.Session
