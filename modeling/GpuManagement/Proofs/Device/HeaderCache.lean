import GpuManagement.Device.Metrics
import GpuManagement.Proofs.Data.Outcome

/-!
# Headers that are remembered

A cache is asked for the header of a table again and again, and now and then it is emptied. Reading
the table is an action on a world, and what it gives and does may be anything. A `Run` is the log of
this, the latest entry first: of each call the time, what the readings gave that it made, and the
answer. `lastRefresh?` reads off the log which table was the last to be read with success since the
cache was empty. That is all a cache knows (`Run.knows`), and so the log tells what the next call
does (`isCurrent_of_run`): the table is read again once the last reading is five seconds old, every
answer is the header of the last table, and a call that fails is in the log and nowhere else.

Times are in nanoseconds, and no call is earlier than the calls before it.
-/

namespace GpuManagement.HeaderCache

section Traced

variable {σ : Type}

/-- A reading that also takes down what it gives. -/
def traced (read : σ → Outcome Bytes × σ) (world : σ × List (Outcome Bytes)) :
    Outcome Bytes × (σ × List (Outcome Bytes)) :=
  let (result, after) := read world.1
  (result, after, world.2 ++ [result])

/-- What the readings gave that a call made, in their order. -/
def readings (c : HeaderCache) (now : Nat) (read : σ → Outcome Bytes × σ) (world : σ) :
    List (Outcome Bytes) := (c.ask now (traced read) (world, [])).2.2.2

end Traced

/-- Something that happens to a cache. A call has its time, what the readings gave that it made, and
the answer. -/
inductive Entry where
  | call (now : Nat) (readings : List (Outcome Bytes)) (answer : Outcome MetricsHeader)
  | invalidation

/-- A table that was read with success, and its header. -/
structure Refresh where
  time : Nat
  table : Bytes
  header : MetricsHeader

/-- The refresh that an entry of a log is, if it is one. -/
def Entry.refresh? : Entry → Option Refresh
  | call now [.ok table] (.ok header) => some ⟨now, table, header⟩
  | _ => none

/-- Whether an entry is no later than a time. -/
def Entry.IsBy (now : Nat) : Entry → Prop
  | call time _ _ => time ≤ now
  | invalidation => True

/-- The last refresh in a log since the start or the last invalidation. -/
def lastRefresh? : List Entry → Option Refresh
  | [] => none
  | .invalidation :: _ => none
  | .call now readings answer :: before =>
    (Entry.call now readings answer).refresh?.or (lastRefresh? before)

variable {σ : Type}

/-- What a call adds to the log. -/
def entryOf (c : HeaderCache) (now : Nat) (read : σ → Outcome Bytes × σ) (world : σ) : Entry :=
  .call now (c.readings now read world) (c.ask now read world).1

/-- The logs of calls that are made one after the other, each with the cache and the world that it
leaves. The world may also change between the calls. -/
inductive Run : List Entry → HeaderCache → σ → Prop where
  | start (world : σ) : Run [] .empty world
  | call {log : List Entry} {c : HeaderCache} {world : σ} (before : Run log c world) {now : Nat}
    (inTime : ∀ entry ∈ log, entry.IsBy now) (read : σ → Outcome Bytes × σ) :
    Run (entryOf c now read world :: log) (c.ask now read world).2.1 (c.ask now read world).2.2
  | invalidation {log : List Entry} {c : HeaderCache} {world : σ} (before : Run log c world) :
    Run (.invalidation :: log) c.invalidate world
  | change {log : List Entry} {c : HeaderCache} {world : σ} (before : Run log c world)
    (other : σ) : Run log c other

variable {log : List Entry} {c : HeaderCache} {now : Nat} {read : σ → Outcome Bytes × σ} {world : σ}
variable {r : Refresh}

theorem refresh?_eq_some_iff {readings : List (Outcome Bytes)} {answer : Outcome MetricsHeader} :
    (Entry.call now readings answer).refresh? = some r ↔
      now = r.time ∧ readings = [.ok r.table] ∧ answer = .ok r.header := by
  obtain ⟨time, bytes, header⟩ := r
  unfold Entry.refresh?
  split
  · rename_i same
    cases same
    simp
  · rename_i other
    constructor
    · intro e
      cases e
    · rintro ⟨rfl, rfl, rfl⟩
      exact absurd rfl (other _ _ _)

/-! ## One call -/

/-- The cache has nothing that may be used at a time. -/
def IsStale (c : HeaderCache) (now : Nat) : Prop :=
  ∀ header time, c.entry = some (header, time) → time + 5000000000 ≤ now

/-- What a call does: what its readings give, the answer, and the cache and the world after it. -/
inductive Moves (c : HeaderCache) (now : Nat) (read : σ → Outcome Bytes × σ) (world : σ) :
    List (Outcome Bytes) → Outcome MetricsHeader → HeaderCache → σ → Prop where
  | remembers {header : MetricsHeader} {time : Nat} (known : c.entry = some (header, time))
    (fresh : now < time + 5000000000) : Moves c now read world [] (.ok header) c world
  | unreadable {e : Error} (stale : c.IsStale now) (failed : (read world).1 = .error e) :
    Moves c now read world [.error e] (.error e) c (read world).2
  | malformed {b : Bytes} {e : Error} (stale : c.IsStale now) (got : (read world).1 = .ok b)
    (refused : MetricsHeader.read b = .error e) :
    Moves c now read world [.ok b] (.error e) c (read world).2
  | refreshes {b : Bytes} {header : MetricsHeader} (stale : c.IsStale now)
    (got : (read world).1 = .ok b) (whole : MetricsHeader.read b = .ok header) :
    Moves c now read world [.ok b] (.ok header) ⟨some (header, now)⟩ (read world).2

/-- A header may be used for less than five seconds. -/
theorem fresh?_eq_some_iff {header : MetricsHeader} : c.fresh? now = some header ↔
    ∃ time, c.entry = some (header, time) ∧ now < time + 5000000000 := by
  unfold fresh? lifetime
  cases entry : c.entry with
  | none => simp
  | some known =>
    obtain ⟨header', time⟩ := known
    have age : now - time < 5000000000 ↔ now < time + 5000000000 := by omega
    simp only [age, Option.ite_none_right_eq_some, Option.some.injEq, Prod.mk.injEq]
    constructor
    · rintro ⟨fresh, rfl⟩
      exact ⟨time, ⟨rfl, rfl⟩, fresh⟩
    · rintro ⟨_, ⟨rfl, rfl⟩, fresh⟩
      exact ⟨fresh, rfl⟩

theorem fresh?_eq_none_iff : c.fresh? now = none ↔ c.IsStale now := by
  rw [Option.eq_none_iff_forall_ne_some]
  constructor
  · intro none header time known
    refine Nat.le_of_not_lt fun fresh => none header ?_
    exact fresh?_eq_some_iff.mpr ⟨time, known, fresh⟩
  · intro stale header known
    obtain ⟨time, known, fresh⟩ := fresh?_eq_some_iff.mp known
    exact absurd fresh (Nat.not_lt.mpr (stale header time known))

theorem moves_ask (c : HeaderCache) (now : Nat) (read : σ → Outcome Bytes × σ) (world : σ) :
    Moves c now read world (c.readings now read world) (c.ask now read world).1
      (c.ask now read world).2.1 (c.ask now read world).2.2 := by
  unfold readings ask
  cases known : c.fresh? now with
  | some header =>
    obtain ⟨time, known, fresh⟩ := fresh?_eq_some_iff.mp known
    exact .remembers known fresh
  | none =>
    have stale := fresh?_eq_none_iff.mp known
    unfold traced
    generalize given : read world = result
    obtain ⟨table, after⟩ := result
    have got : (read world).1 = table := congrArg Prod.fst given
    have left : after = (read world).2 := (congrArg Prod.snd given).symm
    subst left
    cases table with
    | error e => exact .unreadable stale got
    | ok b =>
      cases whole : MetricsHeader.read b with
      | error e =>
        simp only [whole]
        exact .malformed stale got whole
      | ok header =>
        simp only [whole]
        exact .refreshes stale got whole

namespace Moves

variable {readings : List (Outcome Bytes)} {answer : Outcome MetricsHeader} {c' : HeaderCache}
variable {world' : σ}

/-- A call that finds nothing to use reads once. -/
theorem reads (h : Moves c now read world readings answer c' world') (stale : c.IsStale now) :
    readings = [(read world).1] ∧ world' = (read world).2 := by
  cases h with
  | remembers known fresh => exact absurd fresh (Nat.not_lt.mpr (stale _ _ known))
  | unreadable _ failed => exact ⟨by rw [failed], rfl⟩
  | malformed _ got => exact ⟨by rw [got], rfl⟩
  | refreshes _ got => exact ⟨by rw [got], rfl⟩

/-- A call that finds something does not read, and leaves the world alone. -/
theorem rests (h : Moves c now read world readings answer c' world') (fresh : ¬ c.IsStale now) :
    readings = [] ∧ world' = world := by
  cases h with
  | remembers => exact ⟨rfl, rfl⟩
  | unreadable stale => exact absurd stale fresh
  | malformed stale => exact absurd stale fresh
  | refreshes stale => exact absurd stale fresh

/-- A header that is given is the one that the cache holds then. -/
theorem held {header : MetricsHeader}
    (h : Moves c now read world readings (.ok header) c' world') :
    ∃ time, c'.entry = some (header, time) ∧ now < time + 5000000000 := by
  cases h with
  | remembers known fresh => exact ⟨_, known, fresh⟩
  | refreshes => exact ⟨now, rfl, by omega⟩

theorem failed_iff {e : Error} (h : Moves c now read world readings answer c' world') :
    answer = .error e ↔ c.IsStale now ∧ ((read world).1 >>= MetricsHeader.read) = .error e := by
  cases h with
  | remembers known fresh =>
    exact ⟨fun h => (by cases h), fun h => absurd fresh (Nat.not_lt.mpr (h.1 _ _ known))⟩
  | unreadable stale failed =>
    rw [failed]
    exact ⟨fun h => ⟨stale, h⟩, And.right⟩
  | malformed stale got refused =>
    rw [got, Outcome.ok_bind, refused]
    exact ⟨fun h => ⟨stale, by cases h; rfl⟩, fun h => (by cases h.2; rfl)⟩
  | refreshes _ got whole =>
    rw [got, Outcome.ok_bind, whole]
    exact ⟨fun h => (by cases h), fun h => (by cases h.2)⟩

theorem kept {e : Error} (h : Moves c now read world readings (.error e) c' world') :
    c' = c ∧ c.IsStale now := by
  cases h with
  | unreadable stale => exact ⟨rfl, stale⟩
  | malformed stale => exact ⟨rfl, stale⟩

end Moves

/-- A call that does not read is the same for every reading. -/
theorem ask_eq_of_fresh (fresh : ¬ c.IsStale now) (other : σ → Outcome Bytes × σ) :
    c.ask now other world = c.ask now read world := by
  unfold ask
  cases known : c.fresh? now with
  | some header => rfl
  | none => exact absurd (fresh?_eq_none_iff.mp known) fresh

/-! ## Many calls -/

/-- A cache holds the header of the last table that was read, and when that was. -/
structure Knows (log : List Entry) (c : HeaderCache) : Prop where
  entry_eq : c.entry = (lastRefresh? log).map fun r => (r.header, r.time)
  header_eq : ∀ r, lastRefresh? log = some r → MetricsHeader.read r.table = .ok r.header

/-- The cache after a call knows what the log with the call in it tells. -/
theorem Knows.call (h : Knows log c) (now : Nat) (read : σ → Outcome Bytes × σ) (world : σ) :
    Knows (entryOf c now read world :: log) (c.ask now read world).2.1 := by
  have move := moves_ask c now read world
  unfold entryOf
  generalize c.readings now read world = readings, (c.ask now read world).1 = answer,
    (c.ask now read world).2.1 = c', (c.ask now read world).2.2 = world' at move ⊢
  cases move with
  | remembers => exact ⟨h.entry_eq, h.header_eq⟩
  | unreadable => exact ⟨h.entry_eq, h.header_eq⟩
  | malformed => exact ⟨h.entry_eq, h.header_eq⟩
  | refreshes _ _ whole =>
    refine ⟨rfl, fun r last => ?_⟩
    cases last
    exact whole

/-- **What a cache knows**: the last refresh in the log, and nothing else. -/
theorem Run.knows (run : Run log c world) : Knows log c := by
  induction run with
  | start => exact ⟨rfl, fun r last => (by cases last)⟩
  | @call _ _ world _ now _ read ih => exact ih.call now read world
  | invalidation _ _ => exact ⟨rfl, fun r last => (by cases last)⟩
  | change _ _ ih => exact ih

/-- A refresh is no later than the entries of the log. -/
theorem time_le_of_lastRefresh? (inTime : ∀ entry ∈ log, entry.IsBy now)
    (last : lastRefresh? log = some r) : r.time ≤ now := by
  induction log with
  | nil => cases last
  | cons entry before ih =>
    obtain ⟨here, earlier⟩ := List.forall_mem_cons.mp inTime
    cases entry with
    | invalidation => cases last
    | call time readings answer =>
      rcases Option.or_eq_some_iff.mp last with first | ⟨_, last⟩
      · rw [← (refresh?_eq_some_iff.mp first).1]
        exact here
      · exact ih earlier last

/-- No table was read with success since the start or the last invalidation, or the last one that
was is five seconds old. -/
def IsDue (log : List Entry) (now : Nat) : Prop :=
  lastRefresh? log = none ∨ ∃ r, lastRefresh? log = some r ∧ r.time + 5000000000 ≤ now

theorem Knows.isStale_iff (h : Knows log c) : c.IsStale now ↔ IsDue log now := by
  unfold IsStale IsDue
  rw [h.entry_eq]
  cases lastRefresh? log with
  | none => simp
  | some r => simp

/-- What the next call does after those in a log. -/
structure IsCurrent (log : List Entry) (c : HeaderCache) (now : Nat)
    (read : σ → Outcome Bytes × σ) (world : σ) : Prop where
  /-- The table is read once when that is due. -/
  reads : IsDue log now → c.readings now read world = [(read world).1] ∧
    (c.ask now read world).2.2 = (read world).2
  /-- Otherwise it is not read, nothing in the world changes, and what a reading would have given
  and done has no influence. -/
  rests : ¬ IsDue log now → c.readings now read world = [] ∧
    (c.ask now read world).2.2 = world ∧ ∀ other, c.ask now other world = c.ask now read world
  /-- A header is that of the last table, which was read a short time ago or in this call. -/
  answered : ∀ header, (c.ask now read world).1 = .ok header →
    ∃ r, lastRefresh? (entryOf c now read world :: log) = some r ∧
      MetricsHeader.read r.table = .ok header ∧ r.time ≤ now ∧ now < r.time + 5000000000
  /-- A call fails as reading the table and its header does, when it reads. -/
  failed_iff : ∀ e, (c.ask now read world).1 = .error e ↔
    IsDue log now ∧ ((read world).1 >>= MetricsHeader.read) = .error e
  /-- A call that fails leaves the cache, and the next one at the same time reads again. -/
  kept : ∀ e, (c.ask now read world).1 = .error e → (c.ask now read world).2.1 = c ∧
    ∀ (again : σ → Outcome Bytes × σ) (other : σ),
      (c.ask now read world).2.1.readings now again other = [(again other).1]

/-- **A cache is current**: whatever calls came before, the next one gives a header that is no older
than it may be, and reads the table when it has to and not otherwise. -/
theorem isCurrent_of_run (run : Run log c world) (inTime : ∀ entry ∈ log, entry.IsBy now)
    (read : σ → Outcome Bytes × σ) : IsCurrent log c now read world := by
  have knows := run.knows
  have move := moves_ask c now read world
  constructor
  case reads => exact fun due => move.reads (knows.isStale_iff.mpr due)
  case rests =>
    intro undue
    have fresh : ¬ c.IsStale now := fun stale => undue (knows.isStale_iff.mp stale)
    obtain ⟨unread, unchanged⟩ := move.rests fresh
    exact ⟨unread, unchanged, ask_eq_of_fresh fresh⟩
  case answered =>
    intro header given
    rw [given] at move
    obtain ⟨time, held, fresh⟩ := move.held
    have after := (run.call inTime read).knows
    rw [after.entry_eq] at held
    obtain ⟨r, last, e⟩ := Option.map_eq_some_iff.mp held
    cases e
    have byNow : ∀ entry ∈ entryOf c now read world :: log, entry.IsBy now :=
      List.forall_mem_cons.mpr ⟨Nat.le_refl now, inTime⟩
    exact ⟨r, last, after.header_eq r last, time_le_of_lastRefresh? byNow last, fresh⟩
  case failed_iff => exact fun e => by rw [← knows.isStale_iff]; exact move.failed_iff
  case kept =>
    intro e failed
    rw [failed] at move
    obtain ⟨same, stale⟩ := move.kept
    rw [same]
    exact ⟨rfl, fun again other => ((moves_ask c now again other).reads stale).1⟩

/-! ## A table that becomes unreadable -/

/-- The start of a table of the first layout. -/
def sampleTable : Bytes := [96, 0, 1, 1]

/-- The table is there for the first reading only; the world counts the readings. -/
def readOnce (count : Nat) : Outcome Bytes × Nat :=
  (if count = 0 then .ok sampleTable else .fail .fileError, count + 1)

/-- A table that was read, is still known when five seconds are not over, and cannot be read then. -/
def sampleLog : List Entry :=
  [.call 5000000000 [.fail .fileError] (.fail .fileError), .call 4999999999 [] (.ok ⟨96, 1, 1⟩),
    .call 0 [.ok sampleTable] (.ok ⟨96, 1, 1⟩)]

/-- Of three calls two have read. The failure is not remembered, and the next call reads again. -/
theorem isCurrent_sampleLog :
    Run sampleLog ⟨some (⟨96, 1, 1⟩, 0)⟩ 2 ∧ (∀ entry ∈ sampleLog, entry.IsBy 5000000000) ∧
      IsCurrent sampleLog ⟨some (⟨96, 1, 1⟩, 0)⟩ 5000000000 readOnce 2 ∧
      IsDue sampleLog 5000000000 := by
  have first : Run [.call 0 [.ok sampleTable] (.ok ⟨96, 1, 1⟩)] ⟨some (⟨96, 1, 1⟩, 0)⟩ 1 :=
    .call (.start 0) (List.forall_mem_nil _) readOnce
  have second : Run [.call 4999999999 [] (.ok ⟨96, 1, 1⟩),
      .call 0 [.ok sampleTable] (.ok ⟨96, 1, 1⟩)] ⟨some (⟨96, 1, 1⟩, 0)⟩ 1 :=
    first.call (by simp [Entry.IsBy]) readOnce
  have run : Run sampleLog ⟨some (⟨96, 1, 1⟩, 0)⟩ 2 :=
    second.call (by simp [Entry.IsBy]) readOnce
  have inTime : ∀ entry ∈ sampleLog, entry.IsBy 5000000000 := by simp [sampleLog, Entry.IsBy]
  exact ⟨run, inTime, isCurrent_of_run run inTime readOnce, .inr ⟨⟨0, _, _⟩, rfl, by decide⟩⟩

end GpuManagement.HeaderCache
