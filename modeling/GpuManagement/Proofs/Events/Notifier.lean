import GpuManagement.Events.Notifier
import GpuManagement.Proofs.Data.Table
import Mathlib.Data.List.Induction

/-!
# The driver's device is shared

Devices start and stop listening, and each call meets the files and the kernel as they are at the
time. `IsTracked` says what holds after any such calls. As many streams are counted as devices listen
and the driver's device is open for them, and a call that fails changes nothing.

There is one way out of this, and the law names it. A kernel that answers the first request with a
bad descriptor leaves the driver's device open for nobody (`LeftOpen`). It stays so until the next
call to start, whose refusal then closes it.
-/

namespace GpuManagement

namespace Kernel

/-- A request for events is answered as it is set for the card, whatever was asked before. -/
theorem requestStream_fst (k : Kernel) (card : UInt32) :
    (k.requestStream card).1 =
      match k.refusedStreams.get? card with
      | none => .granted
      | some errno => if errno = -1 then .badDescriptor else .refused errno := by
  unfold requestStream note
  simp only
  cases k.refusedStreams.get? card with
  | none => rfl
  | some errno => exact apply_ite Prod.fst _ _ _

theorem requestStream_note (k : Kernel) (call : KernelCall) (card : UInt32) :
    ((k.note call).requestStream card).1 = (k.requestStream card).1 := by
  rw [requestStream_fst, requestStream_fst]
  rfl

end Kernel

namespace EventNotifier

/-- A device with a card starts to listen, or a device stops. -/
inductive Act where
  | start (device card : UInt32)
  | stop (device : UInt32)

def Act.isStop : Act → Bool
  | start _ _ => false
  | stop _ => true

/-- A call, with the files and the kernel that it meets. -/
structure Call where
  act : Act
  tree : Tree
  kernel : Kernel

def Call.apply (c : Call) (n : EventNotifier) : Step Unit :=
  match c.act with
  | .start device card => n.start c.tree c.kernel device card
  | .stop device => n.stop c.kernel device

/-- The notifier after some calls. -/
def after (n : EventNotifier) (cs : List Call) : EventNotifier :=
  cs.foldl (fun n c => (c.apply n).2.1) n

/-- The driver's device is open, or can be opened. -/
def Reaches (n : EventNotifier) (t : Tree) : Prop :=
  n.driverOpen = true ∨ ∃ content, t.content n.driver = .ok content

/-- The call asks the kernel for a stream and is given a bad descriptor. -/
def Call.IsCheated (c : Call) (n : EventNotifier) : Prop :=
  match c.act with
  | .start device card =>
    n.listening.has device = false ∧ n.Reaches c.tree ∧
      (c.kernel.requestStream card).1 = .badDescriptor
  | .stop _ => False

/-! ## One call -/

/-- What a call does. -/
inductive Moves (n : EventNotifier) : Call → Outcome Unit → EventNotifier → Prop where
  | listens {device card : UInt32} {t : Tree} {k : Kernel}
    (there : n.listening.has device = true) : Moves n ⟨.start device card, t, k⟩ (.ok ()) n
  | unreachable {device card : UInt32} {t : Tree} {k : Kernel} {e : Error}
    (missing : ¬ n.Reaches t) : Moves n ⟨.start device card, t, k⟩ (.error e) n
  | granted {device card : UInt32} {t : Tree} {k : Kernel}
    (new : n.listening.has device = false)
    (answer : (k.requestStream card).1 = .granted) :
    Moves n ⟨.start device card, t, k⟩ (.ok ())
      { n with
        driverOpen := true
        users := n.users + 1
        listening := n.listening.insert device card }
  | cheated {device card : UInt32} {t : Tree} {k : Kernel} {e : Error}
    (new : n.listening.has device = false) (reached : n.Reaches t)
    (answer : (k.requestStream card).1 = .badDescriptor) :
    Moves n ⟨.start device card, t, k⟩ (.error e) { n with driverOpen := true }
  | refused {device card : UInt32} {t : Tree} {k : Kernel} {e : Error} {errno : Int}
    (new : n.listening.has device = false)
    (answer : (k.requestStream card).1 = .refused errno) :
    Moves n ⟨.start device card, t, k⟩ (.error e) { n with driverOpen := decide (0 < n.users) }
  | stopped {device : UInt32} {t : Tree} {k : Kernel}
    (there : n.listening.has device = true) :
    Moves n ⟨.stop device, t, k⟩ (.ok ())
      { n with
        driverOpen := n.driverOpen && decide (1 < n.users)
        users := n.users - 1
        listening := n.listening.erase device
        pending := n.pending.filter fun r => r.device ≠ device }
  | silent {device : UInt32} {t : Tree} {k : Kernel} {e : Error}
    (absent : n.listening.has device = false) : Moves n ⟨.stop device, t, k⟩ (.error e) n

/-- The driver's device is closed when nobody is left. -/
theorem closeUnused_fst (n : EventNotifier) (k : Kernel) :
    (n.closeUnused k).1 = { n with driverOpen := n.driverOpen && decide (0 < n.users) } := by
  unfold closeUnused
  by_cases empty : n.users = 0
  · simp [empty]
  · simp [empty, Nat.pos_of_ne_zero empty]

/-- Opening the driver's device, where it can be reached. -/
theorem openDriver_of_reaches {n : EventNotifier} {t : Tree} (reached : n.Reaches t) (k : Kernel) :
    ∃ k', n.openDriver t k = (.ok (), { n with driverOpen := true }, k') ∧
      ∀ card, (k'.requestStream card).1 = (k.requestStream card).1 := by
  unfold openDriver
  cases opened : n.driverOpen with
  | true =>
    refine ⟨k, ?_, fun _ => rfl⟩
    rw [if_pos rfl, ← opened]
  | false =>
    obtain ⟨content, found⟩ := reached.resolve_left (by rw [opened]; exact Bool.false_ne_true)
    refine ⟨(k.note (.opened .driver)).note (.driverRequest Request.driverVersion 0), ?_, ?_⟩
    · simp only [Bool.false_eq_true, if_false, Kernel.openDriver, found]
    · intro card
      rw [Kernel.requestStream_note, Kernel.requestStream_note]

theorem openDriver_of_not_reaches {n : EventNotifier} {t : Tree} (missing : ¬ n.Reaches t)
    (k : Kernel) : ∃ e, n.openDriver t k = (.error e, n, k) := by
  unfold openDriver
  rw [if_neg fun opened => missing (.inl opened)]
  unfold Kernel.openDriver
  cases found : t.content n.driver with
  | ok content => exact absurd (.inr ⟨content, found⟩) missing
  | error fault => exact ⟨_, rfl⟩

variable {n : EventNotifier}

/-- **A call does one of the moves.** -/
theorem moves_apply (c : Call) (n : EventNotifier) : n.Moves c (c.apply n).1 (c.apply n).2.1 := by
  obtain ⟨act, t, k⟩ := c
  cases act with
  | start device card =>
    show n.Moves _ (n.start t k device card).1 (n.start t k device card).2.1
    unfold start
    cases there : n.listening.has device with
    | true => exact .listens there
    | false =>
      by_cases reached : n.Reaches t
      · obtain ⟨k', opened, same⟩ := openDriver_of_reaches reached k
        have asked := same card
        simp only [Bool.false_eq_true, if_false, opened, addStream]
        generalize k'.requestStream card = result at asked ⊢
        obtain ⟨answer, k'⟩ := result
        cases answer with
        | granted => exact .granted there asked.symm
        | badDescriptor => exact .cheated there reached asked.symm
        | refused errno =>
          simp only [closeUnused_fst, Bool.true_and]
          exact .refused there asked.symm
      · obtain ⟨e, opened⟩ := openDriver_of_not_reaches reached k
        simp only [Bool.false_eq_true, if_false, opened]
        exact .unreachable reached
  | stop device =>
    show n.Moves _ (n.stop k device).1 (n.stop k device).2.1
    unfold stop
    cases there : n.listening.get? device with
    | none => exact .silent (by rw [Table.has, there]; rfl)
    | some card =>
      simp only [closeUnused_fst, Nat.sub_pos_iff_lt]
      exact .stopped (by rw [Table.has, there]; rfl)

/-! ## Streams are counted -/

/-- As many streams are counted as devices listen, and the driver's device is open for them. -/
structure IsCounted (n : EventNotifier) : Prop where
  ascending : n.listening.Ascending
  users_eq : n.users = n.listening.length
  driverOpen : 0 < n.users → n.driverOpen = true

theorem IsCounted.ofDriver (driver : Path) : (ofDriver driver).IsCounted :=
  ⟨List.Pairwise.nil, rfl, fun h => absurd h (Nat.lt_irrefl 0)⟩

/-- Somebody is counted while somebody listens. -/
theorem IsCounted.users_pos (h : n.IsCounted) {device : UInt32}
    (there : n.listening.has device = true) : 0 < n.users := by
  rw [h.users_eq, List.length_pos_iff]
  rintro nobody
  rw [nobody] at there
  cases there

theorem IsCounted.apply (h : n.IsCounted) (c : Call) : (c.apply n).2.1.IsCounted := by
  have move := moves_apply c n
  generalize (c.apply n).1 = outcome, (c.apply n).2.1 = n' at move ⊢
  cases move with
  | listens _ => exact h
  | unreachable _ => exact h
  | @granted device card _ _ new _ =>
    have absent : n.listening.get? device = none :=
      Option.isNone_iff_eq_none.mp (Option.isSome_eq_false_iff.mp new)
    exact ⟨h.ascending.insert device card,
      (congrArg (· + 1) h.users_eq).trans (Table.length_insert absent card).symm, fun _ => rfl⟩
  | cheated _ _ _ => exact ⟨h.ascending, h.users_eq, fun _ => rfl⟩
  | refused _ _ => exact ⟨h.ascending, h.users_eq, decide_eq_true⟩
  | @stopped device _ _ there =>
    obtain ⟨card, found⟩ := Option.isSome_iff_exists.mp there
    have one := Table.length_erase h.ascending.nodup found
    refine ⟨h.ascending.erase device, ?_, fun left => ?_⟩
    · have := h.users_eq
      show n.users - 1 = (n.listening.erase device).length
      omega
    · have more : 1 < n.users := Nat.lt_of_sub_pos left
      show (n.driverOpen && decide (1 < n.users)) = true
      rw [h.driverOpen (by omega), decide_eq_true more]
      rfl
  | silent _ => exact h

theorem IsCounted.after (h : n.IsCounted) (cs : List Call) : (n.after cs).IsCounted := by
  induction cs generalizing n with
  | nil => exact h
  | cons c cs ih => exact ih (h.apply c)

/-! ## The driver's device left open -/

/-- The driver's device is open though nobody listens. -/
def IsIdle (n : EventNotifier) : Prop := n.users = 0 ∧ n.driverOpen = true

/-- The last call to start, when nobody listened, was given a bad descriptor. -/
def LeftOpen (n : EventNotifier) (cs : List Call) : Prop :=
  ∃ before c later, cs = before ++ c :: later ∧ (n.after before).users = 0 ∧
    c.IsCheated (n.after before) ∧ ∀ d ∈ later, d.act.isStop = true

/-- One call leaves the driver's device open for nobody when it is given a bad descriptor, or when it
is to stop and finds it so. -/
theorem isIdle_apply_iff (h : n.IsCounted) (c : Call) :
    (c.apply n).2.1.IsIdle ↔
      n.users = 0 ∧ c.IsCheated n ∨ n.IsIdle ∧ c.act.isStop = true := by
  have move := moves_apply c n
  generalize (c.apply n).1 = outcome, (c.apply n).2.1 = n' at move ⊢
  unfold IsIdle Call.IsCheated Act.isStop
  cases move with
  | listens there =>
    have somebody := h.users_pos there
    simp [there, Nat.ne_of_gt somebody]
  | unreachable missing =>
    have closed : ¬ n.driverOpen = true := fun opened => missing (.inl opened)
    simp [missing, closed]
  | granted _ answer => simp [answer]
  | cheated new reached answer => simp [new, reached, answer]
  | refused _ answer => simp [answer]
  | stopped there =>
    have somebody := h.users_pos there
    have busy : ¬ (n.users - 1 = 0 ∧ (n.driverOpen && decide (1 < n.users)) = true) := by
      rintro ⟨last, opened⟩
      have more := of_decide_eq_true (Bool.and_eq_true_iff.mp opened).2
      omega
    exact iff_of_false busy (by simp [Nat.ne_of_gt somebody])
  | silent _ => simp

theorem after_concat (n : EventNotifier) (cs : List Call) (c : Call) :
    n.after (cs ++ [c]) = (c.apply (n.after cs)).2.1 := List.foldl_append

theorem leftOpen_concat_iff {cs : List Call} {c : Call} :
    n.LeftOpen (cs ++ [c]) ↔
      (n.after cs).users = 0 ∧ c.IsCheated (n.after cs) ∨ n.LeftOpen cs ∧ c.act.isStop = true := by
  constructor
  · rintro ⟨before, b, later, split, nobody, cheated, stops⟩
    rcases List.eq_nil_or_concat later with rfl | ⟨later, d, rfl⟩
    · obtain ⟨rfl, same⟩ := List.append_inj' split rfl
      cases same
      exact .inl ⟨nobody, cheated⟩
    · rw [List.concat_eq_append, ← List.cons_append, ← List.append_assoc] at split
      obtain ⟨rfl, same⟩ := List.append_inj' split rfl
      cases same
      rw [List.concat_eq_append] at stops
      exact .inr ⟨⟨before, b, later, rfl, nobody, cheated,
        fun d hd => stops d (List.mem_append_left _ hd)⟩, stops c (by simp)⟩
  · rintro (⟨nobody, cheated⟩ | ⟨⟨before, b, later, rfl, nobody, cheated, stops⟩, stop⟩)
    · exact ⟨cs, c, [], rfl, nobody, cheated, fun d hd => (by cases hd)⟩
    · refine ⟨before, b, later ++ [c], by simp, nobody, cheated, fun d hd => ?_⟩
      rcases List.mem_append.mp hd with hd | hd
      · exact stops d hd
      · rw [List.mem_singleton.mp hd]
        exact stop

/-- The driver's device is open for nobody exactly when it was left open. -/
theorem isIdle_after_iff (h : n.IsCounted) (busy : ¬ n.IsIdle) (cs : List Call) :
    (n.after cs).IsIdle ↔ n.LeftOpen cs := by
  induction cs using List.reverseRecOn with
  | nil =>
    refine ⟨fun idle => absurd idle busy, ?_⟩
    rintro ⟨before, c, later, split, _⟩
    simp at split
  | append_singleton cs c ih =>
    rw [after_concat, isIdle_apply_iff (h.after cs), leftOpen_concat_iff, ih]

/-- A call that fails changes nothing, unless nobody listens: then the driver's device is left open
by a bad descriptor, and a device that was left open is closed by a refusal. -/
theorem apply_of_failed (h : n.IsCounted) {c : Call} {e : Error} (failed : (c.apply n).1 = .error e) :
    (c.apply n).2.1 = n ∨
      n.users = 0 ∧ c.IsCheated n ∧ (c.apply n).2.1 = { n with driverOpen := true } ∨
      n.IsIdle ∧ (c.apply n).2.1 = { n with driverOpen := false } := by
  have move := moves_apply c n
  rw [failed] at move
  generalize (c.apply n).2.1 = n' at move ⊢
  -- with somebody listening the driver's device is open before and after
  have shared : 0 < n.users → { n with driverOpen := true } = n := fun somebody => by
    rw [← h.driverOpen somebody]
  cases move with
  | unreachable _ => exact .inl rfl
  | cheated new reached answer =>
    rcases Nat.eq_zero_or_pos n.users with nobody | somebody
    · exact .inr (.inl ⟨nobody, ⟨new, reached, answer⟩, rfl⟩)
    · exact .inl (shared somebody)
  | refused _ _ =>
    rcases Nat.eq_zero_or_pos n.users with nobody | somebody
    · rw [decide_eq_false (Nat.not_lt.mpr (Nat.le_of_eq nobody))]
      cases opened : n.driverOpen with
      | true => exact .inr (.inr ⟨⟨nobody, opened⟩, rfl⟩)
      | false => exact .inl (by rw [← opened])
    · rw [decide_eq_true somebody]
      exact .inl (shared somebody)
  | silent _ => exact .inl rfl

/-! ## After any calls -/

/-- What holds of a notifier after some calls. -/
structure IsTracked (start : EventNotifier) (cs : List Call) : Prop where
  users_eq : (start.after cs).users = (start.after cs).listening.length
  driverOpen_iff : (start.after cs).driverOpen = true ↔
    0 < (start.after cs).users ∨ start.LeftOpen cs
  failed : ∀ c e, (c.apply (start.after cs)).1 = .error e →
    start.after (cs ++ [c]) = start.after cs ∨
      start.LeftOpen (cs ++ [c]) ∧
        start.after (cs ++ [c]) = { start.after cs with driverOpen := true } ∨
      start.LeftOpen cs ∧ start.after (cs ++ [c]) = { start.after cs with driverOpen := false }

/-- **The driver's device is shared by those who listen**, and closed behind the last of them, unless
a bad descriptor has left it open. -/
theorem isTracked_ofDriver (driver : Path) (cs : List Call) : (ofDriver driver).IsTracked cs := by
  have fresh : ¬ (ofDriver driver).IsIdle := fun idle => Bool.false_ne_true idle.2
  have counted := (IsCounted.ofDriver driver).after cs
  have left := isIdle_after_iff (IsCounted.ofDriver driver) fresh cs
  refine ⟨counted.users_eq, ?_, ?_⟩
  · rw [← left]
    constructor
    · intro opened
      exact (Nat.eq_zero_or_pos _).symm.imp_right fun nobody => ⟨nobody, opened⟩
    · rintro (somebody | idle)
      · exact counted.driverOpen somebody
      · exact idle.2
  · intro c e failed
    rw [after_concat, leftOpen_concat_iff, ← left]
    rcases apply_of_failed counted failed with same | ⟨nobody, cheated, opened⟩ | closed
    · exact .inl same
    · exact .inr (.inl ⟨.inl ⟨nobody, cheated⟩, opened⟩)
    · exact .inr (.inr closed)

/-- A bad descriptor for the first who listens leaves the driver's device open for nobody. -/
theorem driverOpen_after_badDescriptor :
    ¬ ∀ (driver : Path) (cs : List Call),
      (((ofDriver driver).after cs).driverOpen = true ↔ 0 < ((ofDriver driver).after cs).users) ∧
        ((ofDriver driver).after cs).users = ((ofDriver driver).after cs).listening.length ∧
        ∀ c e, (c.apply ((ofDriver driver).after cs)).1 = .error e →
          (ofDriver driver).after (cs ++ [c]) = (ofDriver driver).after cs := by
  intro all
  have opened : ((ofDriver (.root ["kfd"])).after
      [⟨.start 0 7, .directory [("kfd", .file [])], .fresh [(7, -1)]⟩]).driverOpen = true := by
    decide +kernel
  have somebody := (all _ _).1.mp opened
  revert somebody
  decide +kernel

end EventNotifier

end GpuManagement
