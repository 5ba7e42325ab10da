import GpuManagement.Process
import GpuManagement.Proofs.Data.Table
import GpuManagement.Proofs.Files.Fault
import GpuManagement.Proofs.Files.Numbered
import GpuManagement.Proofs.Files.Read
import Mathlib.Algebra.BigOperators.Group.Finset.Basic
import Mathlib.Data.UInt

/-!
# What a process uses

The files of a process say which cards its queues are on, and for each card how much memory, how
much transfer time and, where the driver counts them, how many compute units the process uses. An
`Account` is all of this at once, and `Account.Describes` is what the files have to say for it.
What a call reports are the totals of the account (`totals_of_ofProcess`): a card counts once,
however many queues are on it, and a card whose units are not counted is in neither part of the
share.

Totals are taken in 64 bits, so they are the sums of natural numbers as long as these fit. Where a
call fails, the files say why, but that the process is not found is said by the missing queues
alone (`cards_notFound_iff`, `not_notFound_ofProcess`).
-/

namespace GpuManagement.ProcessUsage

variable {t : Tree} {p root directory : Path} {pid : UInt32} {card n vram sdma : UInt64}
  {units : Option UInt64}

/-! ## Numbers on file -/

/-- The first word of a file is a run of digits that writes the number. -/
def HoldsNumber (t : Tree) (p : Path) (n : UInt64) : Prop :=
  ∃ word, Files.readWord t p = .ok word ∧ Text.isNumber word = true ∧
    Nat.ofDigitChars 10 word 0 = n.toNat

theorem digits?_eq_some_iff {word : List Char} :
    digits? word = some n ↔ Text.isNumber word = true ∧ Nat.ofDigitChars 10 word 0 = n.toNat := by
  unfold digits?
  rw [Option.ite_none_right_eq_some]
  refine and_congr_right fun number => ?_
  obtain ⟨nonempty, digits⟩ := Bool.and_eq_true_iff.mp number
  refine Text.readU64?_digits_iff ?_ (List.all_eq_true.mp digits)
  rintro rfl
  cases nonempty

theorem readNumber_eq_ok_iff : readNumber t p = .ok n ↔ HoldsNumber t p n := by
  unfold readNumber HoldsNumber
  rw [Outcome.bind_eq_ok]
  refine exists_congr fun word => and_congr_right fun _ => ?_
  rw [← digits?_eq_some_iff]
  cases digits? word with
  | none => exact ⟨fun h => (by cases h), fun h => (by cases h)⟩
  | some m => exact ⟨fun h => (by cases h; rfl), fun h => (by cases h; rfl)⟩

theorem not_notFound_notANumber {α : Type} : ¬ (notANumber p : Outcome α).FailsWith .notFound := by
  intro h
  exact absurd (Outcome.FailsWith.error_iff.mp h) (show Status.ofErrno 22 ≠ _ by decide)

/-- A file that is not there, or holds no number, does not mean that the process is not there. -/
theorem not_notFound_readNumber : ¬ (readNumber t p).FailsWith .notFound := by
  intro h
  rcases h.of_bind with ⟨e, he, missing⟩ | ⟨word, _, h⟩
  · exact Files.toStatus_ne_notFound_of_readWord he missing
  · cases hd : digits? word with
    | some m =>
      rw [hd] at h
      exact Outcome.FailsWith.ok m h
    | none =>
      rw [hd] at h
      exact not_notFound_notANumber h

/-! ## Cards with queues -/

/-- The directory of the queues of a process. -/
def queues (root : Path) (pid : UInt32) : Path := (root.childNumber pid.toNat).child "queues"

/-- The file that tells the card of a queue. -/
def queueFile (root : Path) (pid : UInt32) (name : String) : Path :=
  ((queues root pid).child name).child "gpuid"

/-- A queue of the process, under a number, is on the card. -/
def HasQueueOn (t : Tree) (root : Path) (pid : UInt32) (card : UInt64) : Prop :=
  ∃ name number word, Files.entryNumber? name = some number ∧
    Files.readWord t (queueFile root pid name) = .ok word ∧ Text.readU64? 10 word = some card

theorem queueCard?_eq_some_iff {queue : Path} :
    queueCard? t queue = .ok (some card) ↔
      ∃ word, Files.readWord t (queue.child "gpuid") = .ok word ∧
        Text.readU64? 10 word = some card := by
  unfold queueCard?
  dsimp only
  cases Files.readWord t (queue.child "gpuid") with
  | error _ => exact ⟨fun h => (by cases h), fun ⟨_, h, _⟩ => (by cases h)⟩
  | ok word =>
    simp only [Except.ok.injEq, exists_eq_left']
    cases Text.readU64? 10 word with
    | none => exact ⟨fun h => (by cases h), fun h => (by cases h)⟩
    | some id => exact ⟨fun h => (by cases h; rfl), fun h => (by cases h; rfl)⟩

theorem exists_queueCard?_iff {queue : Path} :
    (∃ found, queueCard? t queue = .ok found) ↔
      ∀ word, Files.readWord t (queue.child "gpuid") = .ok word →
        ∃ card, Text.readU64? 10 word = some card := by
  unfold queueCard?
  dsimp only
  cases Files.readWord t (queue.child "gpuid") with
  | error _ => exact ⟨fun _ _ h => (by cases h), fun _ => ⟨none, rfl⟩⟩
  | ok word =>
    simp only [Except.ok.injEq, forall_eq']
    cases Text.readU64? 10 word with
    | none => exact ⟨fun ⟨_, h⟩ => (by cases h), fun ⟨_, h⟩ => (by cases h)⟩
    | some id => exact ⟨fun _ => ⟨id, rfl⟩, fun _ => ⟨some id, rfl⟩⟩

theorem not_notFound_queueCard? {queue : Path} : ¬ (queueCard? t queue).FailsWith .notFound := by
  intro h
  unfold queueCard? at h
  dsimp only at h
  split at h
  · exact Outcome.FailsWith.ok _ h
  · split at h
    · exact Outcome.FailsWith.ok _ h
    · exact absurd (Outcome.FailsWith.error_iff.mp h)
        (show Status.ofErrno 6 ≠ .notFound by decide)

/-- A queue whose card can be read is listed. -/
theorem mem_queues_of_readWord {name : String} {number : UInt32} {word : List Char}
    (numbered : Files.entryNumber? name = some number)
    (read : Files.readWord t (queueFile root pid name) = .ok word) :
    (number, (queues root pid).child name) ∈ Files.numberedEntries t (queues root pid) := by
  obtain ⟨_, found⟩ := (Files.isReadable_of_readWord read).exists_find
  obtain ⟨_, hd, _⟩ := Tree.find_child (by decide) found
  exact Files.mem_numberedEntries_of_find numbered hd

/-- The cards are asked for when there are queues. -/
theorem cards_eq : cards t root pid =
    if t.isDirectory (queues root pid) = true then do
      let found ← (Files.numberedEntries t (queues root pid)).mapM fun entry =>
        queueCard? t entry.2
      .ok (Table.ofEntries (found.filterMap fun id => id.map (·, ()))).keys
    else .error (.access (queues root pid) .noProcess) := by
  unfold cards queues
  dsimp only
  cases t.isDirectory ((root.childNumber pid.toNat).child "queues") with
  | false => rfl
  | true => rfl

/-- **The cards of a process** are those that its queues are on, each once. -/
theorem mem_cards {cs : List UInt64} (h : cards t root pid = .ok cs) :
    cs.Nodup ∧ ∀ card, card ∈ cs ↔ HasQueueOn t root pid card := by
  rw [cards_eq] at h
  split at h
  · obtain ⟨found, hm, h⟩ := Outcome.bind_eq_ok.mp h
    cases h
    refine ⟨(Table.ascending_ofEntries _).nodup, fun card => ?_⟩
    simp only [Table.mem_keys_ofEntries, List.mem_filterMap, Option.map_eq_some_iff, Prod.mk.injEq]
    constructor
    · rintro ⟨_, entry, he, id, rfl, rfl, _⟩
      obtain ⟨⟨number, path⟩, listed, hq⟩ := Outcome.exists_of_mem_mapM hm _ he
      obtain ⟨name, _, numbered, rfl⟩ := Files.mem_numberedEntries.mp listed
      obtain ⟨word, read, value⟩ := queueCard?_eq_some_iff.mp hq
      exact ⟨name, number, word, numbered, read, value⟩
    · rintro ⟨name, number, word, numbered, read, value⟩
      -- What can be read is listed, so the listing has come to this queue.
      obtain ⟨entry, he, hq⟩ :=
        Outcome.exists_mem_of_mapM hm _ (mem_queues_of_readWord numbered read)
      rw [queueCard?_eq_some_iff.mpr ⟨word, read, value⟩] at hq
      cases hq
      exact ⟨(), some card, he, card, rfl, rfl, trivial⟩
  · cases h

/-- The cards of a process are known when it has queues and each that can be read tells a card. -/
theorem exists_cards_iff :
    (∃ cs, cards t root pid = .ok cs) ↔ t.isDirectory (queues root pid) = true ∧
      ∀ name number word, Files.entryNumber? name = some number →
        Files.readWord t (queueFile root pid name) = .ok word →
        ∃ card, Text.readU64? 10 word = some card := by
  rw [cards_eq]
  by_cases there : t.isDirectory (queues root pid) = true
  · rw [if_pos there]
    constructor
    · rintro ⟨cs, h⟩
      refine ⟨there, fun name number word numbered read => ?_⟩
      obtain ⟨found, hm, _⟩ := Outcome.bind_eq_ok.mp h
      exact exists_queueCard?_iff.mp (Outcome.exists_mapM_iff.mp ⟨found, hm⟩ _
        (mem_queues_of_readWord numbered read)) word read
    · rintro ⟨_, tells⟩
      have each : ∀ entry ∈ Files.numberedEntries t (queues root pid),
          ∃ found, queueCard? t entry.2 = .ok found := by
        rintro ⟨number, path⟩ listed
        obtain ⟨name, _, numbered, rfl⟩ := Files.mem_numberedEntries.mp listed
        exact exists_queueCard?_iff.mpr fun word read => tells name number word numbered read
      obtain ⟨found, hm⟩ := Outcome.exists_mapM_iff.mpr each
      exact ⟨_, Outcome.bind_eq_ok.mpr ⟨found, hm, rfl⟩⟩
  · rw [if_neg there]
    exact ⟨fun ⟨_, h⟩ => (by cases h), fun h => absurd h.1 there⟩

/-- A process is not found when it has no queues, and for no other reason. -/
theorem cards_notFound_iff :
    (cards t root pid).FailsWith .notFound ↔ t.isDirectory (queues root pid) = false := by
  rw [cards_eq]
  by_cases there : t.isDirectory (queues root pid) = true
  · rw [if_pos there, there]
    refine ⟨fun h => ?_, fun h => (by cases h)⟩
    rcases h.of_bind with h | ⟨found, _, h⟩
    · obtain ⟨entry, _, h⟩ := h.of_mapM
      exact absurd h not_notFound_queueCard?
    · exact absurd h (Outcome.FailsWith.ok _)
  · rw [if_neg there, Outcome.FailsWith.error_iff]
    exact ⟨fun _ => Bool.eq_false_iff.mpr there, fun _ => show Status.ofErrno 3 = _ by decide⟩

/-- A queue whose card is no number refuses the whole process. -/
theorem toStatus_of_queueCard? {queue : Path} {e : Error} (h : queueCard? t queue = .error e) :
    e.toStatus = .unexpectedData := by
  unfold queueCard? at h
  dsimp only at h
  split at h
  · cases h
  · split at h
    · cases h
    · cases h
      exact show Status.ofErrno 6 = _ by decide

/-- The cards of a process that has queues are missing for one reason only. -/
theorem toStatus_of_cards (there : t.isDirectory (queues root pid) = true) {e : Error}
    (h : cards t root pid = .error e) : e.toStatus = .unexpectedData := by
  rw [cards_eq, if_pos there] at h
  rcases Outcome.bind_eq_error.mp h with h | ⟨_, _, h⟩
  · obtain ⟨_, entry, _, _, _, h⟩ := Outcome.mapM_eq_error_iff.mp h
    exact toStatus_of_queueCard? h
  · cases h

/-- The cards of a process are refused when some queue that can be read tells none. -/
theorem cards_unexpectedData_iff :
    (cards t root pid).FailsWith .unexpectedData ↔ t.isDirectory (queues root pid) = true ∧
      ∃ name number word, Files.entryNumber? name = some number ∧
        Files.readWord t (queueFile root pid name) = .ok word ∧ Text.readU64? 10 word = none := by
  constructor
  · intro h
    have there : t.isDirectory (queues root pid) = true := by
      by_contra missing
      obtain ⟨e, he, unexpected⟩ := h
      obtain ⟨e', he', notFound⟩ := cards_notFound_iff.mpr (Bool.eq_false_iff.mpr missing)
      cases he.symm.trans he'
      cases unexpected.symm.trans notFound
    refine ⟨there, ?_⟩
    by_contra none
    have tells : ∀ name number word, Files.entryNumber? name = some number →
        Files.readWord t (queueFile root pid name) = .ok word →
        ∃ card, Text.readU64? 10 word = some card := by
      intro name number word numbered read
      refine Option.ne_none_iff_exists'.mp fun value => none ?_
      exact ⟨name, number, word, numbered, read, value⟩
    obtain ⟨cs, hc⟩ := exists_cards_iff.mpr ⟨there, tells⟩
    rw [hc] at h
    exact Outcome.FailsWith.ok cs h
  · rintro ⟨there, name, number, word, numbered, read, none⟩
    cases h : cards t root pid with
    | error e => exact ⟨e, rfl, toStatus_of_cards there h⟩
    | ok cs =>
      obtain ⟨card, value⟩ := (exists_cards_iff.mp ⟨cs, h⟩).2 name number word numbered read
      rw [none] at value
      cases value

/-! ## One card -/

/-- The file with the number of compute units of a card that a process uses. -/
def occupancyFile (directory : Path) (card : UInt64) : Path :=
  (directory.child ("stats_" ++ decimalText card.toNat)).child "cu_occupancy"

/-- The units in use are counted when their file can be read, and it holds their number then. -/
def Counts (t : Tree) (p : Path) : Option UInt64 → Prop
  | none => ∃ e, Files.readWord t p = .error e
  | some n => HoldsNumber t p n

/-- What the files of a process say of a card. -/
structure Tells (t : Tree) (directory : Path) (card vram sdma : UInt64) (units : Option UInt64) :
    Prop where
  vram : HoldsNumber t (directory.child ("vram_" ++ decimalText card.toNat)) vram
  sdma : HoldsNumber t (directory.child ("sdma_" ++ decimalText card.toNat)) sdma
  units : Counts t (occupancyFile directory card) units

theorem onCard_eq_ok_iff :
    onCard t directory card = .ok (vram, sdma, units) ↔ Tells t directory card vram sdma units := by
  unfold onCard
  simp only [Outcome.bind_eq_ok, readNumber_eq_ok_iff]
  constructor
  · rintro ⟨v, hv, s, hs, h⟩
    split at h
    · rename_i e unread
      cases h
      exact ⟨hv, hs, e, unread⟩
    · rename_i word read
      split at h
      · rename_i n number
        cases h
        exact ⟨hv, hs, word, read, digits?_eq_some_iff.mp number⟩
      · cases h
  · rintro ⟨hv, hs, hu⟩
    refine ⟨vram, hv, sdma, hs, ?_⟩
    unfold occupancyFile at hu
    cases units with
    | none =>
      obtain ⟨e, unread⟩ := hu
      rw [unread]
    | some n =>
      obtain ⟨word, read, number⟩ := hu
      rw [read]
      dsimp only
      rw [digits?_eq_some_iff.mpr number]

theorem not_notFound_onCard : ¬ (onCard t directory card).FailsWith .notFound := by
  intro h
  unfold onCard at h
  rcases h.of_bind with h | ⟨_, _, h⟩
  · exact not_notFound_readNumber h
  · rcases h.of_bind with h | ⟨_, _, h⟩
    · exact not_notFound_readNumber h
    · dsimp only at h
      split at h
      · exact Outcome.FailsWith.ok _ h
      · split at h
        · exact Outcome.FailsWith.ok _ h
        · exact not_notFound_notANumber h

theorem not_notFound_narrow : ¬ (narrow p n).FailsWith .notFound := by
  intro h
  unfold narrow at h
  split at h
  · exact Outcome.FailsWith.ok _ h
  · exact not_notFound_notANumber h

theorem narrow_eq_ok_iff {m : UInt32} : narrow p n = .ok m ↔ n = m.toUInt64 := by
  unfold narrow
  have bound := m.toNat_lt_size
  by_cases small : n.toNat < UInt32.size
  · rw [if_pos small, Except.ok.injEq, ← UInt32.toNat_inj, ← UInt64.toNat_inj,
      UInt64.toNat_toUInt32, UInt32.toNat_toUInt64, Nat.mod_eq_of_lt small]
  · rw [if_neg small, ← UInt64.toNat_inj, UInt32.toNat_toUInt64]
    constructor
    · intro h
      cases h
    · intro h
      omega

/-! ## Accounts -/

/-- What a process uses of some cards. -/
structure Account where
  cards : Finset UInt64
  vram : UInt64 → UInt64
  sdma : UInt64 → UInt64
  /-- The compute units in use of a card, where they are counted. -/
  units : UInt64 → Option UInt64

namespace Account

/-- The cards are those that the process has queues on, and its files say the rest. -/
structure Describes (a : Account) (t : Tree) (root : Path) (pid : UInt32) : Prop where
  mem_cards : ∀ card, card ∈ a.cards ↔ HasQueueOn t root pid card
  tells : ∀ card ∈ a.cards, Tells t (root.childNumber pid.toNat) card (a.vram card) (a.sdma card)
    (a.units card)

variable (a : Account) (unitsOf : UInt64 → Option UInt64)

def vramTotal : Nat := ∑ card ∈ a.cards, (a.vram card).toNat

def sdmaTotal : Nat := ∑ card ∈ a.cards, (a.sdma card).toNat

/-- The cards whose units in use are counted. -/
def counted : Finset UInt64 := a.cards.filter fun card => (a.units card).isSome

/-- The units in use of the counted cards. -/
def used : Nat := ∑ card ∈ a.counted, ((a.units card).getD 0).toNat

/-- The units that the counted cards have, none for a card that is not known. -/
def available : Nat := ∑ card ∈ a.counted, ((unitsOf card).getD 0).toNat

/-- A card whose units are not counted adds none. -/
theorem used_eq : a.used = ∑ card ∈ a.cards, ((a.units card).getD 0).toNat := by
  unfold used counted
  rw [Finset.sum_filter]
  refine Finset.sum_congr rfl fun card _ => ?_
  cases a.units card with
  | none => rfl
  | some n => rfl

theorem available_eq : a.available unitsOf = ∑ card ∈ a.cards,
    (if (a.units card).isSome then (unitsOf card).getD 0 else 0).toNat := by
  unfold available counted
  rw [Finset.sum_filter]
  refine Finset.sum_congr rfl fun card _ => ?_
  cases a.units card with
  | none => rfl
  | some n => rfl

/-- The usage is in the totals of the account, as far as 64 bits hold them. -/
structure Totals (u : ProcessUsage) : Prop where
  vram : u.vram = UInt64.ofNat a.vramTotal
  sdma : u.sdma = UInt64.ofNat a.sdmaTotal
  occupancy : u.occupancy = share (UInt64.ofNat a.used) (UInt64.ofNat (a.available unitsOf))

end Account

/-- What the files say of a card, nothing where they do not. -/
def reading (t : Tree) (directory : Path) (card : UInt64) : UInt64 × UInt64 × Option UInt64 :=
  (onCard t directory card).toOption.getD (0, 0, none)

theorem reading_of_onCard {found : UInt64 × UInt64 × Option UInt64}
    (h : onCard t directory card = .ok found) : reading t directory card = found := by
  unfold reading
  rw [h]
  rfl

/-- The account that the files give of some cards. -/
def Account.ofFiles (t : Tree) (directory : Path) (cards : List UInt64) : Account where
  cards := cards.toFinset
  vram card := (reading t directory card).1
  sdma card := (reading t directory card).2.1
  units card := (reading t directory card).2.2

/-- What a successful call has read, and what it makes of it. -/
theorem of_ofProcess {cs : List UInt64} {unitsOf : UInt64 → Option UInt64} {u : ProcessUsage}
    (h : ofProcess t root pid cs unitsOf = .ok u) :
    let account := Account.ofFiles t (root.childNumber pid.toNat) cs
    HoldsNumber t ((root.childNumber pid.toNat).child "pasid") u.pasid.toUInt64 ∧
      (∀ card ∈ cs, Tells t (root.childNumber pid.toNat) card (account.vram card)
        (account.sdma card) (account.units card)) ∧
      u.pid = pid ∧ u.vram = (cs.map account.vram).foldl (· + ·) 0 ∧
      u.sdma = (cs.map account.sdma).foldl (· + ·) 0 ∧
      u.occupancy = share ((cs.map fun card => (account.units card).getD 0).foldl (· + ·) 0)
        ((cs.map fun card => if (account.units card).isSome then (unitsOf card).getD 0 else 0).foldl
          (· + ·) 0) := by
  intro account
  unfold ofProcess at h
  dsimp only at h
  split at h
  · cases h
  · obtain ⟨number, hn, h⟩ := Outcome.bind_eq_ok.mp h
    obtain ⟨pasid, hp, h⟩ := Outcome.bind_eq_ok.mp h
    obtain ⟨uses, hu, h⟩ := Outcome.bind_eq_ok.mp h
    cases h
    obtain rfl := Outcome.eq_map_of_mapM hu (g := fun card => (account.vram card,
        account.sdma card, (account.units card).getD 0,
        if (account.units card).isSome then (unitsOf card).getD 0 else 0)) (by
      intro card use step
      obtain ⟨found, hf, step⟩ := Outcome.bind_eq_ok.mp step
      cases step
      rw [← reading_of_onCard hf]
      rfl)
    simp only [List.map_map]
    refine ⟨narrow_eq_ok_iff.mp hp ▸ readNumber_eq_ok_iff.mp hn, fun card hc => ?_, trivial, rfl,
      rfl, rfl⟩
    obtain ⟨_, _, step⟩ := Outcome.exists_mem_of_mapM hu card hc
    obtain ⟨found, hf, _⟩ := Outcome.bind_eq_ok.mp step
    rw [← onCard_eq_ok_iff, hf, ← reading_of_onCard hf]
    rfl

/-- The call succeeds when the address space and each card have their numbers on file. -/
theorem exists_ofProcess_iff {cs : List UInt64} {unitsOf : UInt64 → Option UInt64}
    (there : t.exists_ (root.childNumber pid.toNat) = true) :
    (∃ u, ofProcess t root pid cs unitsOf = .ok u) ↔
      (∃ pasid : UInt32,
        HoldsNumber t ((root.childNumber pid.toNat).child "pasid") pasid.toUInt64) ∧
      ∀ card ∈ cs, ∃ vram sdma units,
        Tells t (root.childNumber pid.toNat) card vram sdma units := by
  constructor
  · rintro ⟨u, h⟩
    obtain ⟨pasid, tells, _⟩ := of_ofProcess h
    exact ⟨⟨_, pasid⟩, fun card hc => ⟨_, _, _, tells card hc⟩⟩
  · rintro ⟨⟨pasid, hp⟩, tells⟩
    unfold ofProcess
    dsimp only
    rw [there, if_neg (by exact Bool.false_ne_true), readNumber_eq_ok_iff.mpr hp, Outcome.ok_bind,
      narrow_eq_ok_iff.mpr rfl, Outcome.ok_bind, Outcome.exists_bind_ok_iff,
      Outcome.exists_mapM_iff]
    intro card hc
    obtain ⟨vram, sdma, units, told⟩ := tells card hc
    exact ⟨_, Outcome.bind_eq_ok.mpr ⟨_, onCard_eq_ok_iff.mpr told, rfl⟩⟩

/-- A process that has a directory is found, whatever its files hold. -/
theorem not_notFound_ofProcess {cs : List UInt64} {unitsOf : UInt64 → Option UInt64}
    (there : t.exists_ (root.childNumber pid.toNat) = true) :
    ¬ (ofProcess t root pid cs unitsOf).FailsWith .notFound := by
  intro h
  unfold ofProcess at h
  dsimp only at h
  rw [there, if_neg (by exact Bool.false_ne_true)] at h
  rcases h.of_bind with h | ⟨number, _, h⟩
  · exact not_notFound_readNumber h
  · rcases h.of_bind with h | ⟨pasid, _, h⟩
    · exact not_notFound_narrow h
    · rcases h.of_bind with h | ⟨uses, _, h⟩
      · obtain ⟨card, _, h⟩ := h.of_mapM
        rcases h.of_bind with h | ⟨found, _, h⟩
        · exact not_notFound_onCard h
        · exact Outcome.FailsWith.ok _ h
      · exact Outcome.FailsWith.ok _ h

/-! ## Totals -/

theorem foldl_add_eq_ofNat (xs : List UInt64) (start : Nat) :
    xs.foldl (· + ·) (UInt64.ofNat start) = UInt64.ofNat (start + (xs.map UInt64.toNat).sum) := by
  induction xs generalizing start with
  | nil => rfl
  | cons x xs ih =>
    calc xs.foldl (· + ·) (UInt64.ofNat start + x)
        = xs.foldl (· + ·) (UInt64.ofNat (start + x.toNat)) := by
          rw [UInt64.ofNat_add, UInt64.ofNat_toNat]
      _ = UInt64.ofNat (start + ((x :: xs).map UInt64.toNat).sum) := by
          rw [ih, List.map_cons, List.sum_cons, Nat.add_assoc]

/-- A total over cards that are listed once is the sum over the set of them. -/
theorem foldl_add_map {cs : List UInt64} (nodup : cs.Nodup) (part : UInt64 → UInt64) :
    (cs.map part).foldl (· + ·) 0 = UInt64.ofNat (∑ card ∈ cs.toFinset, (part card).toNat) := by
  have total := foldl_add_eq_ofNat (cs.map part) 0
  rw [Nat.zero_add, List.map_map] at total
  rw [List.sum_toFinset _ nodup]
  exact total

/-- The files give an account of the cards that the process has queues on. -/
theorem describes_ofFiles {cs : List UInt64} (h : cards t root pid = .ok cs)
    (tells : ∀ card ∈ cs, ∃ vram sdma units,
      Tells t (root.childNumber pid.toNat) card vram sdma units) :
    (Account.ofFiles t (root.childNumber pid.toNat) cs).Describes t root pid := by
  refine ⟨fun card => ?_, fun card hc => ?_⟩
  · exact List.mem_toFinset.trans ((mem_cards h).2 card)
  · obtain ⟨vram, sdma, units, told⟩ := tells card (List.mem_toFinset.mp hc)
    have found := onCard_eq_ok_iff.mpr told
    rw [← onCard_eq_ok_iff, found, ← reading_of_onCard found]
    rfl

variable {a : Account}

/-- Every account that the files describe is the one that they give. -/
theorem reading_of_describes (h : a.Describes t root pid) (hc : card ∈ a.cards) :
    reading t (root.childNumber pid.toNat) card = (a.vram card, a.sdma card, a.units card) :=
  reading_of_onCard (onCard_eq_ok_iff.mpr (h.tells card hc))

/-- **Totals**: what is reported is in the totals of the account that the files describe. -/
theorem totals_of_ofProcess (h : a.Describes t root pid) {cs : List UInt64}
    (listed : cards t root pid = .ok cs) {unitsOf : UInt64 → Option UInt64} {u : ProcessUsage}
    (reported : ofProcess t root pid cs unitsOf = .ok u) : a.Totals unitsOf u := by
  obtain ⟨nodup, mem⟩ := mem_cards listed
  have same : cs.toFinset = a.cards := by
    ext card
    rw [List.mem_toFinset, mem, h.mem_cards]
  -- Each of the four totals is one over what the files say of a card, and the account agrees with
  -- the files on its cards.
  have total : ∀ part : UInt64 × UInt64 × Option UInt64 → UInt64 → UInt64,
      (cs.map fun card => part (reading t (root.childNumber pid.toNat) card) card).foldl (· + ·) 0 =
        UInt64.ofNat (∑ card ∈ a.cards,
          (part (a.vram card, a.sdma card, a.units card) card).toNat) := by
    intro part
    rw [foldl_add_map nodup, same]
    refine congrArg UInt64.ofNat (Finset.sum_congr rfl fun card hc => ?_)
    rw [reading_of_describes h hc]
  obtain ⟨_, _, _, vram, sdma, occupancy⟩ := of_ofProcess reported
  refine ⟨vram.trans (total fun found _ => found.1), sdma.trans (total fun found _ => found.2.1),
    occupancy.trans ?_⟩
  rw [Account.used_eq, Account.available_eq]
  exact congrArg₂ share (total fun found _ => found.2.2.getD 0)
    (total fun found card => if found.2.2.isSome then (unitsOf card).getD 0 else 0)

theorem toNat_share (used total : UInt64) :
    (share used total).toNat =
      min (if total = 0 then used.toNat else used.toNat * 100 % 2 ^ 64 / total.toNat)
        (2 ^ 32 - 1) := by
  have value : (if total = 0 then used else used * 100 / total).toNat =
      if total = 0 then used.toNat else used.toNat * 100 % 2 ^ 64 / total.toNat := by
    split
    · rfl
    · rw [UInt64.toNat_div, UInt64.toNat_mul]
      rfl
  unfold share
  dsimp only
  rw [UInt32.toNat_ofNat_of_lt' (by unfold UInt32.size; omega), value]
  rfl

theorem ofNat_eq_zero_iff {m : Nat} (small : m < 2 ^ 64) : UInt64.ofNat m = 0 ↔ m = 0 := by
  rw [← UInt64.toNat_inj, UInt64.toNat_ofNat_of_lt' small]
  rfl

/-- The share in natural numbers, as long as these fit. -/
theorem toNat_share_ofNat {used available : Nat} (fits : 100 * used < 2 ^ 64)
    (fits' : available < 2 ^ 64) :
    (share (UInt64.ofNat used) (UInt64.ofNat available)).toNat =
      min (if 0 < available then 100 * used / available else used) (2 ^ 32 - 1) := by
  have small : used < 2 ^ 64 := by omega
  rw [toNat_share, UInt64.toNat_ofNat_of_lt' small, UInt64.toNat_ofNat_of_lt' fits',
    Nat.mul_comm used 100, Nat.mod_eq_of_lt fits]
  by_cases none : available = 0
  · rw [if_pos ((ofNat_eq_zero_iff fits').mpr none), if_neg (by omega)]
  · rw [if_neg (mt (ofNat_eq_zero_iff fits').mp none), if_pos (by omega)]

/-- The share is a percentage when no more units are in use than there are. -/
theorem share_le_hundred {used available : Nat} (fits : available < 2 ^ 64)
    (within : used ≤ available) : share (UInt64.ofNat used) (UInt64.ofNat available) ≤ 100 := by
  have small : used < 2 ^ 64 := Nat.lt_of_le_of_lt within fits
  rw [UInt32.le_iff_toNat_le, toNat_share, UInt64.toNat_ofNat_of_lt' small,
    UInt64.toNat_ofNat_of_lt' fits]
  refine Nat.le_trans (Nat.min_le_left _ _) ?_
  by_cases none : available = 0
  · rw [if_pos ((ofNat_eq_zero_iff fits).mpr none)]
    omega
  · rw [if_neg (mt (ofNat_eq_zero_iff fits).mp none)]
    calc used * 100 % 2 ^ 64 / available
        ≤ used * 100 / available := Nat.div_le_div_right (Nat.mod_le _ _)
      _ ≤ available * 100 / available :=
        Nat.div_le_div_right (Nat.mul_le_mul_right _ within)
      _ = 100 := Nat.mul_div_cancel_left _ (Nat.pos_of_ne_zero none)

end GpuManagement.ProcessUsage
