import GpuManagement.Proofs.Session.Basic

/-!
# One device is busy

The lock of a device that is held, in a session that does not wait, is seen by the calls that go
through that lock and by no others. A `Call` is anything that a session can be asked or told, and
`Moment.run` carries it out on the session, the files and the kernel of a moment.

The locks that are held are read in one place only, where a device is locked. So two sessions that
differ in them carry out a call alike as soon as they agree on the lock that it goes through, and
differ afterwards as before (`Moment.run_withHeld`). A call through a held lock ends before any file
is looked at (`refuses_of_isBusy`). From both comes what a run leaves behind once the lock is let
go: what the same run leaves without the calls that went through it (`Moment.letGo_afterAll`).

Sessions that wait are left out, and so are locks that others take or let go during a run.
-/

namespace GpuManagement

namespace Session

/-! ## Calls -/

/-- Anything that a session can be asked, or told. -/
inductive Call where
  | read (dv : UInt32) (reading : Reading)
  | apply (dv : UInt32) (setting : Setting)
  | device (dv : UInt32)
  | node (dv : UInt32)
  | deviceCount
  | deviceOfCard (gpuId : UInt64)
  | link (source target : UInt32)
  | links
  | numaNode (dv : UInt32)
  | route (source target : UInt32)
  | routeWeight (source target : UInt32)
  | routeKind (source target : UInt32)
  | bandwidth (source target : UInt32)
  | isPeer (source target : UInt32)
  | capabilities (dv : UInt32)
  | supports (dv : UInt32) (call : String) (variant sensor : UInt64)
  | walk (dv : UInt32)
  | metricsHeader (dv : UInt32)
  | processes
  | processUsage (pid : UInt32)
  | processDevices (pid : UInt32)
  | driverVersion
  | groupSupported (dv group : UInt32)
  | counter (dv event : UInt32)
  | startEvents (dv : UInt32)
  | setEventMask (dv : UInt32) (mask : UInt64)
  | events (timeout : Int) (limit : Nat)
  | stopEvents (dv : UInt32)
  deriving DecidableEq, Repr

namespace Call

/-- What a call answers when it succeeds. -/
def Value : Call → Type
  | read _ r => r.Value
  | apply _ _ | groupSupported _ _ | startEvents _ | setEventMask _ _ | stopEvents _
  | supports _ _ _ _ => Unit
  | device _ => Device
  | node _ => Node
  | deviceCount => Nat
  | deviceOfCard _ => Option UInt32
  | link _ _ => Option Link
  | links => Table (UInt32 × UInt32) Link
  | numaNode _ => UInt32
  | route _ _ => Route
  | routeWeight _ _ => UInt64
  | routeKind _ _ => Nat × RouteKind
  | bandwidth _ _ => UInt64 × UInt64
  | isPeer _ _ => Bool
  | capabilities _ => Capabilities
  | walk _ => Walk
  | metricsHeader _ => MetricsHeader
  | processes => List ProcessUsage
  | processUsage _ => ProcessUsage
  | processDevices _ => List UInt32
  | driverVersion => List Char
  | counter _ _ => Counter
  | events _ _ => List EventNotification

/-- The device whose lock a call goes through. -/
def lock? : Call → Option UInt32
  | read dv r => if r.needsLock then some dv else none
  | apply dv _ => some dv
  | _ => none

end Call

/-- A session, with the files and the kernel that it meets. -/
structure Moment where
  session : Session
  tree : Tree
  kernel : Kernel

/-- The answer to a call at a time in milliseconds, and the moment after it. -/
def Moment.run (m : Moment) (now : Nat) : (c : Call) → Outcome c.Value × Moment
  | .read dv r =>
    (m.session.read m.tree dv r,
      { m with session := m.session.afterReading m.tree now dv r })
  | .apply dv setting =>
    let step := m.session.apply m.tree dv setting
    (step.1, { m with tree := step.2 })
  | .device dv => (m.session.device dv, m)
  | .node dv => (m.session.node dv, m)
  | .deviceCount => (.ok m.session.deviceCount, m)
  | .deviceOfCard gpuId => (.ok (m.session.inventory.deviceOfCard? gpuId), m)
  | .link source target => (.ok (m.session.inventory.link? source target), m)
  | .links => (.ok m.session.inventory.links, m)
  | .numaNode dv => (Route.numaNode m.session.inventory dv, m)
  | .route source target => (Route.between m.session.inventory source target, m)
  | .routeWeight source target => (Route.weightBetween m.session.inventory source target, m)
  | .routeKind source target => (Route.kindBetween m.session.inventory source target, m)
  | .bandwidth source target => (Route.bandwidthBetween m.session.inventory source target, m)
  | .isPeer source target => (Route.isPeer m.session.inventory source target, m)
  | .capabilities dv =>
    let step := m.session.capabilities m.tree dv
    (step.1, { m with session := step.2 })
  | .supports dv call variant sensor =>
    let step := m.session.supports m.tree dv call variant sensor
    (step.1, { m with session := step.2 })
  | .walk dv =>
    let step := m.session.walk m.tree dv
    (step.1, { m with session := step.2 })
  | .metricsHeader dv =>
    let step := m.session.metricsHeader m.tree now dv
    (step.1, { m with session := step.2 })
  | .processes => (m.session.processes m.tree, m)
  | .processUsage pid => (m.session.processUsage m.tree pid, m)
  | .processDevices pid => (m.session.processDevices m.tree pid, m)
  | .driverVersion => (m.session.driverVersion m.tree, m)
  | .groupSupported dv group => (m.session.groupSupported dv group, m)
  | .counter dv event => (m.session.counter dv event, m)
  | .startEvents dv =>
    let step := m.session.startEvents m.tree m.kernel dv
    (step.1, { m with session := step.2.1, kernel := step.2.2 })
  | .setEventMask dv mask =>
    let step := m.session.setEventMask m.kernel dv mask
    (step.1, { m with kernel := step.2 })
  | .events timeout limit =>
    let step := m.session.events m.kernel timeout limit
    (step.1, { m with session := step.2.1, kernel := step.2.2 })
  | .stopEvents dv =>
    let step := m.session.stopEvents m.kernel dv
    (step.1, { m with session := step.2.1, kernel := step.2.2 })

/-! ## Sessions that differ in the locks that are held -/

/-- The session with other locks held. -/
def withHeld (s : Session) (held : Table UInt32 Unit) : Session := { s with held }

section

variable (s : Session) (held : Table UInt32 Unit) (t : Tree) (k : Kernel) (now : Nat) (dv : UInt32)

@[simp] theorem device_withHeld : (s.withHeld held).device dv = s.device dv := rfl

@[simp] theorem isBusy_release : s.release.isBusy dv = false := Bool.and_false _

@[simp] theorem checkReading_withHeld (r : Reading) :
    (s.withHeld held).checkReading dv r = s.checkReading dv r := by
  cases r <;> rfl

@[simp] theorem metricsHeader_withHeld :
    (s.withHeld held).metricsHeader t now dv =
      ((s.metricsHeader t now dv).1, (s.metricsHeader t now dv).2.withHeld held) := by
  unfold metricsHeader
  rw [device_withHeld]
  cases s.device dv <;> rfl

@[simp] theorem capabilities_withHeld :
    (s.withHeld held).capabilities t dv =
      ((s.capabilities t dv).1, (s.capabilities t dv).2.withHeld held) := by
  have known : (s.withHeld held).known = s.known := rfl
  unfold capabilities
  rw [device_withHeld, known]
  cases s.device dv with
  | error _ => rfl
  | ok d => cases s.known.get? dv <;> rfl

@[simp] theorem supports_withHeld (call : String) (variant sensor : UInt64) :
    (s.withHeld held).supports t dv call variant sensor =
      ((s.supports t dv call variant sensor).1,
        (s.supports t dv call variant sensor).2.withHeld held) := by
  unfold supports
  rw [capabilities_withHeld]
  generalize s.capabilities t dv = step
  obtain ⟨outcome, after⟩ := step
  cases outcome <;> rfl

@[simp] theorem walk_withHeld :
    (s.withHeld held).walk t dv = ((s.walk t dv).1, (s.walk t dv).2.withHeld held) := by
  unfold walk
  rw [capabilities_withHeld]
  generalize s.capabilities t dv = step
  obtain ⟨outcome, after⟩ := step
  cases outcome <;> rfl

@[simp] theorem startEvents_withHeld :
    (s.withHeld held).startEvents t k dv =
      ((s.startEvents t k dv).1, (s.startEvents t k dv).2.1.withHeld held,
        (s.startEvents t k dv).2.2) := by
  have card : (s.withHeld held).eventCard dv = s.eventCard dv := rfl
  unfold startEvents
  rw [card]
  cases s.eventCard dv <;> rfl

@[simp] theorem stopEvents_withHeld :
    (s.withHeld held).stopEvents k dv =
      ((s.stopEvents k dv).1, (s.stopEvents k dv).2.1.withHeld held, (s.stopEvents k dv).2.2) := by
  unfold stopEvents
  rw [device_withHeld]
  cases s.device dv <;> rfl

end

section

variable {s : Session} {held : Table UInt32 Unit} {t : Tree} {dv : UInt32}

/-- A lock is taken alike where the two sessions agree on it. -/
theorem lockedDevice_withHeld (same : (s.withHeld held).isBusy dv = s.isBusy dv) :
    (s.withHeld held).lockedDevice dv = s.lockedDevice dv := by
  unfold lockedDevice
  rw [same, device_withHeld]

theorem read_withHeld {r : Reading}
    (same : r.needsLock = true → (s.withHeld held).isBusy dv = s.isBusy dv) :
    (s.withHeld held).read t dv r = s.read t dv r := by
  unfold read
  rw [checkReading_withHeld, device_withHeld]
  by_cases locks : r.needsLock = true
  · rw [if_pos locks, if_pos locks, lockedDevice_withHeld (same locks)]
  · rw [if_neg locks, if_neg locks]

theorem afterReading_withHeld {r : Reading} (now : Nat)
    (same : (s.withHeld held).read t dv r = s.read t dv r) :
    (s.withHeld held).afterReading t now dv r = (s.afterReading t now dv r).withHeld held := by
  unfold afterReading
  rw [same]
  split
  · rw [metricsHeader_withHeld]
  · rfl

theorem apply_withHeld {setting : Setting}
    (same : (s.withHeld held).isBusy dv = s.isBusy dv) :
    (s.withHeld held).apply t dv setting = s.apply t dv setting := by
  have root : (s.withHeld held).requireRoot = s.requireRoot := rfl
  unfold apply
  rw [root, lockedDevice_withHeld same]

end

namespace Moment

/-- The moment with other locks held. -/
def withHeld (m : Moment) (held : Table UInt32 Unit) : Moment :=
  { m with session := m.session.withHeld held }

/-- The moment with no lock held. -/
def release (m : Moment) : Moment := { m with session := m.session.release }

/-- **A call sees the lock that it goes through and no other**: sessions that agree on it carry the
call out alike. -/
theorem run_withHeld {m : Moment} {c : Call} {held : Table UInt32 Unit} (now : Nat)
    (same : ∀ dv, c.lock? = some dv → (m.session.withHeld held).isBusy dv = m.session.isBusy dv) :
    (m.withHeld held).run now c = ((m.run now c).1, (m.run now c).2.withHeld held) := by
  obtain ⟨s, t, k⟩ := m
  cases c with
  | read dv r =>
    have alike : (s.withHeld held).read t dv r = s.read t dv r :=
      read_withHeld fun locks => same dv (if_pos locks)
    simp only [run, withHeld, alike, afterReading_withHeld now alike]
  | apply dv setting => simp only [run, withHeld, apply_withHeld (same dv rfl)]
  | capabilities _ | supports _ _ _ _ | walk _ | metricsHeader _ | startEvents _ | stopEvents _ =>
    simp [run, withHeld]
  | _ => rfl

end Moment

/-! ## Calls through a lock that is held -/

/-- An error that is found before a device is locked: the user may not, an argument is wrong, or the
device lacks the group of counters. -/
def IsEarly (e : Error) : Prop :=
  e = .status .permission ∨ e = .status .invalidArgs ∨ e = .status .notSupported

section

variable {s : Session} {dv : UInt32} {e : Error}

theorem isEarly_of_ofOption {α : Type} {x : Option α}
    (h : Outcome.ofOption .invalidArgs x = .error e) : IsEarly e :=
  .inr (.inl (Outcome.ofOption_eq_error.mp h).2)

theorem isEarly_of_device (h : s.device dv = .error e) : IsEarly e := by
  rcases Outcome.bind_eq_error.mp h with h | ⟨_, _, h⟩
  · exact isEarly_of_ofOption h
  · cases h

theorem isEarly_of_requireRoot (h : s.requireRoot = .error e) : IsEarly e := by
  unfold requireRoot at h
  split at h
  · cases h
  · cases h
    exact .inl rfl

theorem isEarly_of_check {setting : Setting} (h : setting.check = .error e) : IsEarly e := by
  cases setting with
  | perfLevel _ | overdriveLevel _ | powerProfile _ =>
    simp only [Setting.check] at h
    split at h
    · cases h
      exact .inr (.inl rfl)
    · cases h
  | _ => cases h

theorem isEarly_of_groupSupported {group : UInt32} (h : s.groupSupported dv group = .error e) :
    IsEarly e := by
  rcases Outcome.bind_eq_error.mp h with h | ⟨g, _, h⟩
  · exact isEarly_of_ofOption h
  · rcases Outcome.bind_eq_error.mp h with h | ⟨d, _, h⟩
    · exact isEarly_of_device h
    · split at h
      · cases h
      · cases h
        exact .inr (.inr rfl)

theorem isEarly_of_checkReading {r : Reading} (h : s.checkReading dv r = .error e) : IsEarly e := by
  cases r with
  | firmwareVersion _ | errorCount _ =>
    simp only [checkReading] at h
    split at h
    · cases h
    · cases h
      exact .inr (.inl rfl)
  | availableCounters group =>
    rcases Outcome.bind_eq_error.mp h with h | ⟨_, _, h⟩
    · exact isEarly_of_groupSupported h
    · split at h
      · cases h
      · cases h
        exact .inr (.inr rfl)
  | _ => cases h

/-- A lock that is held stops a call that passes its first checks `x`: the device is busy, unless
there is no such device. -/
theorem locked_of_isBusy {x : Outcome Unit} (early : ∀ e, x = .error e → IsEarly e)
    (busy : s.isBusy dv = true) :
    ∃ e, (x >>= fun _ => s.lockedDevice dv) = .error e ∧
      (e = .status .busy ∨
        IsEarly e ∧ ∀ held, (x >>= fun _ => (s.withHeld held).lockedDevice dv) = .error e) := by
  cases x with
  | error e => exact ⟨e, rfl, .inr ⟨early e rfl, fun _ => rfl⟩⟩
  | ok _ =>
    simp only [Outcome.ok_bind]
    cases hd : s.device dv with
    | error e =>
      have unknown : ∀ held, (s.withHeld held).lockedDevice dv = .error e := by
        intro held
        unfold lockedDevice
        rw [device_withHeld, hd]
        rfl
      exact ⟨e, unknown s.held, .inr ⟨isEarly_of_device hd, unknown⟩⟩
    | ok d =>
      refine ⟨.status .busy, ?_, .inl rfl⟩
      unfold lockedDevice
      rw [hd, Outcome.ok_bind, if_pos busy]
      rfl

/-- A reading that needs the lock looks at the files once it has it. -/
theorem run_read_of_error {r : Reading} (locks : r.needsLock = true)
    (h : (s.checkReading dv r >>= fun _ => s.lockedDevice dv) = .error e) (now : Nat) (t : Tree)
    (k : Kernel) : Moment.run ⟨s, t, k⟩ now (.read dv r) = (.error e, ⟨s, t, k⟩) := by
  have answer : s.read t dv r = .error e := by
    unfold read
    rw [if_pos locks, ← bind_assoc, h]
    rfl
  simp only [Moment.run, afterReading, answer]
  rfl

/-- What is checked of a setting before the device is locked. -/
def checkSetting (s : Session) (setting : Setting) : Outcome Unit :=
  s.requireRoot >>= fun _ => setting.check

theorem isEarly_of_checkSetting {setting : Setting} (h : s.checkSetting setting = .error e) :
    IsEarly e := by
  rcases Outcome.bind_eq_error.mp h with h | ⟨_, _, h⟩
  · exact isEarly_of_requireRoot h
  · exact isEarly_of_check h

/-- A setting looks at the files once it has the lock. -/
theorem run_apply_of_error {setting : Setting}
    (h : (s.checkSetting setting >>= fun _ => s.lockedDevice dv) = .error e) (now : Nat) (t : Tree)
    (k : Kernel) : Moment.run ⟨s, t, k⟩ now (.apply dv setting) = (.error e, ⟨s, t, k⟩) := by
  have answer : s.apply t dv setting = (.error e, t) := by
    unfold checkSetting at h
    rw [bind_assoc] at h
    unfold apply
    rw [h]
  simp only [Moment.run, answer]
  rfl

/-- The call is refused: it ends before any file is looked at and changes nothing. Either the device
is busy, or the call has an error that it has whatever locks are held. -/
def Refuses (s : Session) (c : Call) : Prop :=
  ∃ e, (∀ now t k, Moment.run ⟨s, t, k⟩ now c = (.error e, ⟨s, t, k⟩)) ∧
    (e = .status .busy ∨ IsEarly e ∧ ∀ held now t k,
      Moment.run ⟨s.withHeld held, t, k⟩ now c = (.error e, ⟨s.withHeld held, t, k⟩))

/-- **A call through a lock that is held is refused.** -/
theorem refuses_of_isBusy {c : Call} (goes : c.lock? = some dv) (busy : s.isBusy dv = true) :
    s.Refuses c := by
  cases c with
  | read dv' r =>
    obtain ⟨locks, same⟩ := Option.ite_none_right_eq_some.mp goes
    cases same
    have early : ∀ e, s.checkReading dv r = .error e → IsEarly e :=
      fun _ h => isEarly_of_checkReading h
    obtain ⟨e, stopped, reason⟩ := locked_of_isBusy early busy
    refine ⟨e, run_read_of_error locks stopped, reason.imp_right ?_⟩
    rintro ⟨early, always⟩
    refine ⟨early, fun held => run_read_of_error locks ?_⟩
    rw [checkReading_withHeld]
    exact always held
  | apply dv' setting =>
    cases goes
    have early : ∀ e, s.checkSetting setting = .error e → IsEarly e :=
      fun _ h => isEarly_of_checkSetting h
    obtain ⟨e, stopped, reason⟩ := locked_of_isBusy early busy
    refine ⟨e, run_apply_of_error stopped, reason.imp_right ?_⟩
    rintro ⟨early, always⟩
    exact ⟨early, fun held => run_apply_of_error (always held)⟩
  | _ => cases goes

end

/-! ## What calls leave of a session -/

section

variable (s : Session) (t : Tree) (k : Kernel) (now : Nat) (dv : UInt32)

@[simp] theorem flags_metricsHeader : (s.metricsHeader t now dv).2.flags = s.flags := by
  unfold metricsHeader
  cases s.device dv <;> rfl

@[simp] theorem flags_afterReading (r : Reading) : (s.afterReading t now dv r).flags = s.flags := by
  unfold afterReading
  split
  · exact flags_metricsHeader s t now dv
  · rfl

@[simp] theorem flags_capabilities : (s.capabilities t dv).2.flags = s.flags := by
  unfold capabilities
  cases s.device dv with
  | error _ => rfl
  | ok d => cases h : s.known.get? dv <;> rfl

@[simp] theorem flags_walk : (s.walk t dv).2.flags = s.flags := by
  rw [← flags_capabilities s t dv]
  unfold walk
  generalize s.capabilities t dv = step
  obtain ⟨outcome, after⟩ := step
  cases outcome <;> rfl

@[simp] theorem flags_startEvents : (s.startEvents t k dv).2.1.flags = s.flags := by
  unfold startEvents
  cases s.eventCard dv <;> rfl

@[simp] theorem flags_stopEvents : (s.stopEvents k dv).2.1.flags = s.flags := by
  unfold stopEvents
  cases s.device dv <;> rfl

end

namespace Moment

variable {m : Moment} {dv : UInt32}

@[simp] theorem flags_run (m : Moment) (now : Nat) (c : Call) :
    (m.run now c).2.session.flags = m.session.flags := by
  obtain ⟨s, t, k⟩ := m
  cases c with
  | read _ _ | capabilities _ | walk _ | metricsHeader _ | startEvents _ | stopEvents _ =>
    simp [run]
  | supports _ _ _ _ => simp [run, supports_snd]
  | _ => rfl

/-- No call takes a lock that it keeps, or lets go of one that another has. -/
@[simp] theorem held_run (m : Moment) (now : Nat) (c : Call) :
    (m.run now c).2.session.held = m.session.held := by
  have same : (m.withHeld m.session.held).run now c =
      ((m.run now c).1, (m.run now c).2.withHeld m.session.held) := run_withHeld now fun _ _ => rfl
  exact congrArg (fun step => step.2.session.held) same

/-- What a session goes on to meet: a call, or something outside that changes the files and the
kernel. -/
inductive Event where
  | call (now : Nat) (c : Call)
  | outside (t : Tree) (k : Kernel)

/-- The device whose lock an event goes through. -/
def Event.lock? : Event → Option UInt32
  | call _ c => c.lock?
  | outside _ _ => none

/-- The moment after an event. -/
def after (m : Moment) : Event → Moment
  | .call now c => (m.run now c).2
  | .outside tree kernel => { m with tree, kernel }

/-- The moment after events, in order. -/
def afterAll (m : Moment) (events : List Event) : Moment := events.foldl after m

@[simp] theorem flags_after (m : Moment) (e : Event) : (m.after e).session.flags = m.session.flags := by
  cases e with
  | call now c => exact flags_run m now c
  | outside _ _ => rfl

@[simp] theorem held_after (m : Moment) (e : Event) : (m.after e).session.held = m.session.held := by
  cases e with
  | call now c => exact held_run m now c
  | outside _ _ => rfl

end Moment

/-! ## Letting go of one lock -/

/-- The session once the lock of a device is let go. -/
def letGo (s : Session) (dv : UInt32) : Session := s.withHeld (s.held.erase dv)

/-- A lock that was taken and let go leaves no trace. -/
theorem letGo_hold {s s' : Session} {dv : UInt32} (nonBlocking : s.flags.nonBlocking = true)
    (h : s.hold dv = .ok s') : s'.letGo dv = s := by
  obtain ⟨d, taken, h⟩ := Outcome.bind_eq_ok.mp h
  obtain ⟨d', _, taken⟩ := Outcome.bind_eq_ok.mp taken
  cases h
  have free : s.held.get? dv = none := by
    split at taken
    · cases taken
    · rename_i free
      simpa [isBusy, nonBlocking, Table.has] using free
  unfold letGo withHeld
  simp only [Table.erase_insert free]

/-- The other locks are as busy as before. -/
theorem isBusy_letGo {s : Session} {dv other : UInt32} (h : other ≠ dv) :
    (s.letGo dv).isBusy other = s.isBusy other := by
  simp [letGo, withHeld, isBusy, Table.has, Table.get?_erase, h.symm]

namespace Moment

variable {m : Moment} {dv : UInt32}

/-- The moment once the lock of a device is let go. -/
def letGo (m : Moment) (dv : UInt32) : Moment := { m with session := m.session.letGo dv }

/-- A call through another lock, or through none, does not see that a lock is let go. -/
theorem run_letGo (m : Moment) (now : Nat) {c : Call} (other : c.lock? ≠ some dv) :
    (m.letGo dv).run now c = ((m.run now c).1, (m.run now c).2.letGo dv) := by
  have same : (m.letGo dv).run now c =
      ((m.run now c).1, (m.run now c).2.withHeld (m.session.held.erase dv)) :=
    run_withHeld now fun dv' goes => isBusy_letGo fun h => other (h ▸ goes)
  rw [same]
  simp [letGo, Session.letGo, withHeld]

/-- A call whose own lock is free does not see that all locks are let go. -/
theorem run_release (m : Moment) (now : Nat) {c : Call}
    (free : ∀ dv, c.lock? = some dv → m.session.isBusy dv = false) :
    m.release.run now c = ((m.run now c).1, (m.run now c).2.release) :=
  run_withHeld now fun dv goes => (isBusy_release m.session dv).trans (free dv goes).symm

/-- An event through a held lock changes nothing. -/
theorem after_of_isBusy {e : Event} (goes : e.lock? = some dv)
    (busy : m.session.isBusy dv = true) : m.after e = m := by
  cases e with
  | call now c =>
    obtain ⟨e, ends, _⟩ := refuses_of_isBusy goes busy
    exact congrArg Prod.snd (ends now m.tree m.kernel)
  | outside _ _ => cases goes

/-- An event that does not go through a lock comes to the same once the lock is let go. -/
theorem letGo_after {e : Event} (other : e.lock? ≠ some dv) :
    (m.after e).letGo dv = (m.letGo dv).after e := by
  cases e with
  | call now c => exact (congrArg Prod.snd (run_letGo m now other)).symm
  | outside _ _ => rfl

/-- **A lock that is let go leaves no trace**: what events leave behind is what those of them leave
that did not go through the lock, in the session that never held it. -/
theorem letGo_afterAll (busy : m.session.isBusy dv = true) (events : List Event) :
    (m.afterAll events).letGo dv = (m.letGo dv).afterAll (events.filter (·.lock? ≠ some dv)) := by
  induction events generalizing m with
  | nil => rfl
  | cons e events ih =>
    by_cases goes : e.lock? = some dv
    · have refused : m.after e = m := after_of_isBusy goes busy
      simpa [afterAll, goes, refused] using ih busy
    · have still : (m.after e).session.isBusy dv = true := by
        simpa [isBusy] using busy
      have step : (m.after e).letGo dv = (m.letGo dv).after e := letGo_after goes
      simpa [afterAll, goes, step] using ih still

end Moment

/-! ## Isolation -/

/-- The lock of a device is seen by the calls that go through it, for as long as it is held. -/
structure IsIsolated (s : Session) (dv : UInt32) : Prop where
  /-- A call through the lock is refused. -/
  refused : ∀ c : Call, c.lock? = some dv → s.Refuses c
  /-- Any other call is carried out as if the lock was let go. -/
  others : ∀ c : Call, c.lock? ≠ some dv → ∀ now t k,
    Moment.run ⟨s.letGo dv, t, k⟩ now c =
      ((Moment.run ⟨s, t, k⟩ now c).1, (Moment.run ⟨s, t, k⟩ now c).2.letGo dv)
  /-- A call whose own lock is free is carried out as if no lock was held. -/
  free : ∀ c : Call, (∀ other, c.lock? = some other → s.isBusy other = false) → ∀ now t k,
    Moment.run ⟨s.release, t, k⟩ now c =
      ((Moment.run ⟨s, t, k⟩ now c).1, (Moment.run ⟨s, t, k⟩ now c).2.release)
  /-- Once the lock is let go, all is as if it had not been held. -/
  afterwards : ∀ (t : Tree) (k : Kernel) (events : List Moment.Event),
    (Moment.afterAll ⟨s, t, k⟩ events).letGo dv =
      Moment.afterAll ⟨s.letGo dv, t, k⟩ (events.filter (·.lock? ≠ some dv))

/-- **A device that is busy is the only one**: a session that does not wait isolates the devices
whose locks are held. -/
theorem isIsolated_of_held {s : Session} {dv : UInt32} (nonBlocking : s.flags.nonBlocking = true)
    (held : s.held.has dv = true) : s.IsIsolated dv := by
  have busy : s.isBusy dv = true := by
    unfold isBusy
    rw [nonBlocking, held]
    rfl
  constructor
  · intro c goes
    exact refuses_of_isBusy goes busy
  · intro c other now t k
    exact Moment.run_letGo ⟨s, t, k⟩ now other
  · intro c free now t k
    exact Moment.run_release ⟨s, t, k⟩ now free
  · intro t k events
    exact Moment.letGo_afterAll (m := ⟨s, t, k⟩) busy events

/-- One of two partitions of a card is taken by a session that does not wait. -/
theorem isIsolated_partition :
    ∃ s s', build Inventory.splitSystem Inventory.sampleConfig 0 ⟨0x800000000000001⟩ = .ok s ∧
      s.deviceCount = 2 ∧ s.hold 0 = .ok s' ∧ s'.IsIsolated 0 ∧ s'.letGo 0 = s := by
  have found : (build Inventory.splitSystem Inventory.sampleConfig 0
      ⟨0x800000000000001⟩).toOption.map (fun s => (s.deviceCount, s.flags.nonBlocking,
        (s.hold 0).toOption.map fun s' => (s'.flags.nonBlocking, s'.held.has 0))) =
          some (2, true, some (true, true)) := by decide +kernel
  obtain ⟨s, opened, e⟩ := Outcome.exists_of_toOption_map found
  obtain ⟨count, e⟩ := Prod.mk.inj e
  obtain ⟨nonBlocking, e⟩ := Prod.mk.inj e
  obtain ⟨s', taken, e⟩ := Outcome.exists_of_toOption_map e
  obtain ⟨still, held⟩ := Prod.mk.inj e
  exact ⟨s, s', opened, count, taken, isIsolated_of_held still held, letGo_hold nonBlocking taken⟩

end Session

end GpuManagement
