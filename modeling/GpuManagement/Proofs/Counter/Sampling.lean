import GpuManagement.Config
import GpuManagement.Counter.Basic
import GpuManagement.Proofs.Data.Outcome
import Mathlib.Data.List.Basic
import Mathlib.Data.UInt

/-!
# Counts add up

A counter tells how much was counted since the value before, and that value is the last one that was
taken, whether or not it was any good: values that were dropped, and those before a failure, move
the base as well. So over the whole life of a counter every difference of two values in succession
is either reported, once, or dropped as implausible, and together they make up the last value taken
(`isAccounted_ofEvent`).

A reading may take three values. What they are is up to their source, which has a state of its own;
`readOff` is the reading of values that lie ready, and `sampleFrom` comes to the same with what its
source offers. Which of the values are taken is seen by a source that keeps a record.
-/

namespace GpuManagement.Counter

variable {σ : Type}

/-! ## Values and their differences -/

/-- Where values are taken from: the answer to a request, and the state after it. -/
abbrev Source (σ : Type) := σ → Outcome CounterValue × σ

/-- A difference that is believed. -/
def IsPlausible (difference : UInt64) : Prop := difference.toNat ≤ 2 ^ 48

instance (difference : UInt64) : Decidable (IsPlausible difference) :=
  inferInstanceAs (Decidable (_ ≤ _))

theorem maxDelta_lt_iff {difference : UInt64} :
    maxDelta < difference.toNat ↔ ¬ IsPlausible difference := by
  unfold IsPlausible maxDelta
  omega

/-- Each value less the one before, modulo `2 ^ 64`. -/
def differences (base : UInt64) : List CounterValue → List UInt64
  | [] => []
  | raw :: rest => (raw.value - base) :: differences raw.value rest

/-- The last of some values, `base` where there is none. -/
def lastOf (base : UInt64) (values : List CounterValue) : UInt64 :=
  (values.map CounterValue.value).getLastD base

/-- The values are all dropped. -/
def Discards (base : UInt64) (values : List CounterValue) : Prop :=
  ∀ difference ∈ differences base values, ¬ IsPlausible difference

variable {base : UInt64} {raw : CounterValue} {values more : List CounterValue}

@[simp] theorem lastOf_nil : lastOf base [] = base := rfl

@[simp] theorem lastOf_cons : lastOf base (raw :: values) = lastOf raw.value values := by
  rw [lastOf, List.map_cons, List.getLastD_cons]
  rfl

theorem lastOf_append : lastOf base (values ++ more) = lastOf (lastOf base values) more := by
  induction values generalizing base with
  | nil => rfl
  | cons raw values ih => simp [ih]

theorem differences_append :
    differences base (values ++ more) =
      differences base values ++ differences (lastOf base values) more := by
  induction values generalizing base with
  | nil => rfl
  | cons raw values ih => simp [differences, ih]

@[simp] theorem discards_nil : Discards base [] := by
  intro difference h
  cases h

@[simp] theorem discards_cons :
    Discards base (raw :: values) ↔
      ¬ IsPlausible (raw.value - base) ∧ Discards raw.value values := by
  simp [Discards, differences]

/-- Differences add up to the last value. -/
theorem add_sum_differences : base + (differences base values).sum = lastOf base values := by
  induction values generalizing base with
  | nil => simp [differences]
  | cons raw values ih =>
    calc base + (raw.value - base + (differences raw.value values).sum)
        = raw.value - base + base + (differences raw.value values).sum := by ac_rfl
      _ = raw.value + (differences raw.value values).sum := by rw [UInt64.sub_add_cancel]
      _ = lastOf base (raw :: values) := by rw [ih, lastOf_cons]

/-- The plausible differences and the others add up to all of them. -/
theorem sum_filter_add_sum_filter_not (xs : List UInt64) :
    (xs.filter fun d => IsPlausible d).sum + (xs.filter fun d => ¬ IsPlausible d).sum = xs.sum := by
  induction xs with
  | nil => rfl
  | cons x xs ih =>
    by_cases h : IsPlausible x
    · simp only [List.filter_cons, h, decide_true, not_true, decide_false, if_true,
        Bool.false_eq_true, if_false, List.sum_cons, ← ih]
      ac_rfl
    · simp only [List.filter_cons, h, decide_true, not_false_iff, decide_false, if_true,
        Bool.false_eq_true, if_false, List.sum_cons, ← ih]
      ac_rfl

/-! ## Readings of values that lie ready -/

/-- A reading of outcomes that lie ready: those it takes, its answer, and the base it leaves. -/
def readOff (base : UInt64) :
    List (Outcome CounterValue) → List (Outcome CounterValue) × Outcome CounterValue × UInt64
  | [] => ([], .fail .unexpectedData, base)
  | .error e :: _ => ([.error e], .error e, base)
  | .ok raw :: rest =>
    if IsPlausible (raw.value - base) then
      ([.ok raw], .ok { raw with value := raw.value - base }, raw.value)
    else
      let (taken, answer, last) := readOff raw.value rest
      (.ok raw :: taken, answer, last)

/-- The values among some outcomes. -/
def valuesOf (outcomes : List (Outcome CounterValue)) : List CounterValue :=
  outcomes.filterMap Except.toOption

variable {ready rest : List (Outcome CounterValue)} {skipped : List CounterValue}

/-- Values that are dropped are taken, and the reading goes on from the last of them. -/
theorem readOff_append (dropped : Discards base skipped) :
    readOff base (skipped.map .ok ++ rest) =
      (skipped.map .ok ++ (readOff (lastOf base skipped) rest).1,
        (readOff (lastOf base skipped) rest).2) := by
  induction skipped generalizing base with
  | nil => rfl
  | cons raw skipped ih =>
    obtain ⟨large, dropped⟩ := discards_cons.mp dropped
    simp [readOff, large, ih dropped]

/-- A reading ends with the first plausible value, with a failure before one, or with neither. -/
theorem readOff_cases (base : UInt64) (ready : List (Outcome CounterValue)) :
    ∃ skipped, Discards base skipped ∧
      ((∃ raw rest, ready = skipped.map .ok ++ .ok raw :: rest ∧
          IsPlausible (raw.value - lastOf base skipped)) ∨
        (∃ e rest, ready = skipped.map .ok ++ .error e :: rest) ∨ ready = skipped.map .ok) := by
  induction ready generalizing base with
  | nil => exact ⟨[], discards_nil, .inr (.inr rfl)⟩
  | cons outcome ready ih =>
    cases outcome with
    | error e => exact ⟨[], discards_nil, .inr (.inl ⟨e, ready, rfl⟩)⟩
    | ok raw =>
      by_cases small : IsPlausible (raw.value - base)
      · exact ⟨[], discards_nil, .inl ⟨raw, ready, rfl, small⟩⟩
      · obtain ⟨skipped, dropped, h⟩ := ih raw.value
        refine ⟨raw :: skipped, discards_cons.mpr ⟨small, dropped⟩, ?_⟩
        rw [lastOf_cons]
        rcases h with ⟨raw', rest, rfl, h⟩ | ⟨e, rest, rfl⟩ | rfl
        · exact .inl ⟨raw', rest, rfl, h⟩
        · exact .inr (.inl ⟨e, rest, rfl⟩)
        · exact .inr (.inr rfl)

theorem readOff_counted (dropped : Discards base skipped)
    (small : IsPlausible (raw.value - lastOf base skipped)) :
    readOff base (skipped.map .ok ++ .ok raw :: rest) =
      (skipped.map .ok ++ [.ok raw],
        .ok { raw with value := raw.value - lastOf base skipped }, raw.value) := by
  rw [readOff_append dropped, readOff, if_pos small]

theorem readOff_failed (dropped : Discards base skipped) (e : Error) :
    readOff base (skipped.map .ok ++ .error e :: rest) =
      (skipped.map .ok ++ [.error e], .error e, lastOf base skipped) := by
  rw [readOff_append dropped, readOff]

theorem readOff_exhausted (dropped : Discards base skipped) :
    readOff base (skipped.map .ok) =
      (skipped.map .ok, .fail .unexpectedData, lastOf base skipped) := by
  have h : readOff base (skipped.map .ok ++ []) = _ := readOff_append dropped
  rwa [List.append_nil, readOff, List.append_nil] at h

/-- A value that is plausible after some others means that there is a first plausible one. -/
theorem exists_first_believed {earlier : List CounterValue}
    (here : earlier.map .ok ++ [.ok raw] <+: ready)
    (small : IsPlausible (raw.value - lastOf base earlier)) :
    ∃ skipped raw', Discards base skipped ∧ skipped.map .ok ++ [.ok raw'] <+: ready ∧
      IsPlausible (raw'.value - lastOf base skipped) := by
  induction earlier generalizing base ready with
  | nil => exact ⟨[], raw, discards_nil, here, small⟩
  | cons first earlier ih =>
    obtain ⟨rest, rfl⟩ := here
    by_cases good : IsPlausible (first.value - base)
    · exact ⟨[], first, discards_nil, ⟨_, rfl⟩, good⟩
    · rw [lastOf_cons] at small
      obtain ⟨skipped, raw', dropped, before, h⟩ := ih ⟨rest, rfl⟩ small
      refine ⟨first :: skipped, raw', discards_cons.mpr ⟨good, dropped⟩, ?_, ?_⟩
      · exact List.cons_prefix_cons.mpr ⟨rfl, before⟩
      · rwa [lastOf_cons]

theorem valuesOf_append : valuesOf (ready ++ rest) = valuesOf ready ++ valuesOf rest :=
  List.filterMap_append

@[simp] theorem valuesOf_map_ok : valuesOf (values.map .ok) = values := by
  induction values with
  | nil => rfl
  | cons raw values ih => exact congrArg (raw :: ·) ih

theorem taken_readOff_prefix (base : UInt64) (ready : List (Outcome CounterValue)) :
    (readOff base ready).1 <+: ready := by
  obtain ⟨skipped, dropped, ⟨raw, rest, rfl, small⟩ | ⟨e, rest, rfl⟩ | rfl⟩ :=
    readOff_cases base ready
  · rw [readOff_counted dropped small]
    exact ⟨rest, by simp⟩
  · rw [readOff_failed dropped e]
    exact ⟨rest, by simp⟩
  · exact ⟨[], by simp [readOff_exhausted dropped]⟩

/-- The base after a reading is the last value that it took. -/
theorem base_readOff (base : UInt64) (ready : List (Outcome CounterValue)) :
    (readOff base ready).2.2 = lastOf base (valuesOf (readOff base ready).1) := by
  obtain ⟨skipped, dropped, ⟨raw, rest, rfl, small⟩ | ⟨e, rest, rfl⟩ | rfl⟩ :=
    readOff_cases base ready
  · rw [readOff_counted dropped small, valuesOf_append, valuesOf_map_ok, lastOf_append]
    rfl
  · rw [readOff_failed dropped e, valuesOf_append, valuesOf_map_ok, lastOf_append]
    rfl
  · rw [readOff_exhausted dropped, valuesOf_map_ok]

/-- What a reading reports is the one plausible difference among those that it took. -/
theorem reported_readOff (base : UInt64) (ready : List (Outcome CounterValue)) :
    ((readOff base ready).2.1.toOption.map CounterValue.value).toList =
      (differences base (valuesOf (readOff base ready).1)).filter fun d => IsPlausible d := by
  have none_of : ∀ {skipped}, Discards base skipped →
      (differences base skipped).filter (fun d => IsPlausible d) = [] := by
    intro skipped dropped
    refine List.filter_eq_nil_iff.mpr fun d hd => ?_
    simpa using dropped d hd
  obtain ⟨skipped, dropped, ⟨raw, rest, rfl, small⟩ | ⟨e, rest, rfl⟩ | rfl⟩ :=
    readOff_cases base ready
  · rw [readOff_counted dropped small, valuesOf_append, valuesOf_map_ok, differences_append,
      List.filter_append, none_of dropped]
    simp [valuesOf, differences, small, Except.toOption]
  · rw [readOff_failed dropped e, valuesOf_append, valuesOf_map_ok, differences_append,
      List.filter_append, none_of dropped]
    rfl
  · rw [readOff_exhausted dropped, valuesOf_map_ok, none_of dropped]
    rfl

/-! ## Readings from a source -/

/-- The answers to the next `n` requests. -/
def offered (next : Source σ) : Nat → σ → List (Outcome CounterValue)
  | 0, _ => []
  | n + 1, s => (next s).1 :: offered next n (next s).2

/-- The source that keeps a record of its answers besides. -/
def recorded (next : Source σ) : Source (σ × List (Outcome CounterValue)) := fun s =>
  ((next s.1).1, (next s.1).2, s.2 ++ [(next s.1).1])

theorem length_offered (next : Source σ) (n : Nat) (s : σ) : (offered next n s).length = n := by
  induction n generalizing s with
  | zero => rfl
  | succ n ih => exact congrArg (· + 1) (ih _)

/-- A reading from a source is one of what the source offers. -/
theorem sampleFrom_eq (next : Source σ) (tries : Nat) (c : Counter) (s : σ) :
    (sampleFrom next tries c s).1 = (readOff c.previous (offered next tries s)).2.1 ∧
      (sampleFrom next tries c s).2.1 =
        { c with previous := (readOff c.previous (offered next tries s)).2.2 } := by
  induction tries generalizing c s with
  | zero => exact ⟨rfl, rfl⟩
  | succ tries ih =>
    rw [offered, sampleFrom]
    generalize next s = step
    obtain ⟨outcome, s'⟩ := step
    cases outcome with
    | error e => exact ⟨rfl, rfl⟩
    | ok raw =>
      simp only [readOff]
      by_cases small : IsPlausible (raw.value - c.previous)
      · simp only [maxDelta_lt_iff, small, not_true, if_true, if_false, and_self]
      · simp only [maxDelta_lt_iff, small, not_false_iff, if_true, if_false]
        exact ih { c with previous := raw.value } s'

/-- What a reading takes from a source is on the source's record. -/
theorem recorded_sampleFrom (next : Source σ) (tries : Nat) (c : Counter) (s : σ)
    (record : List (Outcome CounterValue)) :
    (sampleFrom (recorded next) tries c (s, record)).2.2.2 =
      record ++ (readOff c.previous (offered next tries s)).1 := by
  induction tries generalizing c s record with
  | zero => exact (List.append_nil record).symm
  | succ tries ih =>
    rw [offered, sampleFrom, recorded]
    generalize next s = step
    obtain ⟨outcome, s'⟩ := step
    cases outcome with
    | error e => rfl
    | ok raw =>
      simp only [readOff]
      by_cases small : IsPlausible (raw.value - c.previous)
      · simp only [maxDelta_lt_iff, small, not_true, if_true, if_false]
      · simp only [maxDelta_lt_iff, small, not_false_iff, if_true, if_false]
        have later := ih { c with previous := raw.value } s' (record ++ [Except.ok raw])
        rw [List.append_assoc] at later
        exact later

/-! ## The life of a counter -/

/-- One reading of a counter. -/
structure Turn where
  /-- What the source would answer to three requests. -/
  offered : List (Outcome CounterValue)
  /-- What was taken of it, in order. -/
  taken : List (Outcome CounterValue)
  answer : Outcome CounterValue

/-- A reading from a source, with what it took by the source's own record. -/
def turn (c : Counter) (next : Source σ) (s : σ) : Turn where
  offered := offered next 3 s
  taken := (c.sample (recorded next) (s, [])).2.2.2
  answer := (c.sample next s).1

/-- Readings in succession, each from a source of its own on one state. -/
def turns (c : Counter) (s : σ) : List (Source σ) → List Turn
  | [] => []
  | next :: rest => c.turn next s :: turns (c.sample next s).2.1 (c.sample next s).2.2 rest

/-- The values that some readings took, in order. -/
def takenBy (history : List Turn) : List CounterValue := valuesOf (history.flatMap Turn.taken)

/-- The differences that some readings reported, in order. -/
def reportedBy (history : List Turn) : List UInt64 :=
  history.filterMap fun turn => turn.answer.toOption.map CounterValue.value

/-- The differences that some readings took and did not report, in order, from a base on. -/
def discardedBy (base : UInt64) (history : List Turn) : List UInt64 :=
  (differences base (takenBy history)).filter fun d => ¬ IsPlausible d

/-- The reading is right about the first plausible difference among three values, each taken against
the one before it, the first of them against `base`. -/
structure Turn.IsExact (base : UInt64) (turn : Turn) : Prop where
  offers : turn.offered.length = 3
  takes : turn.taken <+: turn.offered
  /-- There is an answer when one of the values is plausible, with no failure before it. -/
  succeeds_iff : (∃ value, turn.answer = .ok value) ↔
    ∃ earlier raw, earlier.map .ok ++ [.ok raw] <+: turn.offered ∧
      IsPlausible (raw.value - lastOf base earlier)
  /-- The answer is the first plausible difference, with the times of its value. -/
  counts : ∀ skipped raw, Discards base skipped →
    skipped.map .ok ++ [.ok raw] <+: turn.offered → IsPlausible (raw.value - lastOf base skipped) →
    turn.taken = skipped.map .ok ++ [.ok raw] ∧
      turn.answer = .ok ⟨raw.value - lastOf base skipped, raw.timeEnabled, raw.timeRunning⟩
  passesOn : ∀ skipped e, Discards base skipped →
    skipped.map .ok ++ [.error e] <+: turn.offered →
    turn.taken = skipped.map .ok ++ [.error e] ∧ turn.answer = .error e
  givesUp : ∀ skipped, Discards base skipped → turn.offered = skipped.map .ok →
    turn.taken = turn.offered ∧ turn.answer = .fail .unexpectedData

/-- Every reading is exact on the base of the last value taken before it, in whichever reading, and
what was taken is reported or discarded. -/
structure IsAccounted (base : UInt64) (history : List Turn) : Prop where
  exact : ∀ before turn after, history = before ++ turn :: after →
    turn.IsExact (lastOf base (takenBy before))
  reported : reportedBy history =
    (differences base (takenBy history)).filter fun d => IsPlausible d
  total : base + ((reportedBy history).sum + (discardedBy base history).sum) =
    lastOf base (takenBy history)

variable {c : Counter} {next : Source σ} {s : σ}

theorem taken_turn : (c.turn next s).taken = (readOff c.previous (offered next 3 s)).1 :=
  recorded_sampleFrom next 3 c s []

theorem answer_turn : (c.turn next s).answer = (readOff c.previous (offered next 3 s)).2.1 :=
  (sampleFrom_eq next 3 c s).1

/-- The base of the next reading is the last value taken. -/
theorem previous_sample :
    (c.sample next s).2.1.previous = lastOf c.previous (valuesOf (c.turn next s).taken) := by
  rw [taken_turn, ← base_readOff]
  exact congrArg Counter.previous (sampleFrom_eq next 3 c s).2

/-- **A reading is exact.** -/
theorem isExact_turn (c : Counter) (next : Source σ) (s : σ) :
    (c.turn next s).IsExact c.previous := by
  have counts : ∀ skipped raw, Discards c.previous skipped →
      skipped.map .ok ++ [.ok raw] <+: offered next 3 s →
      IsPlausible (raw.value - lastOf c.previous skipped) →
      (c.turn next s).taken = skipped.map .ok ++ [.ok raw] ∧ (c.turn next s).answer =
        .ok ⟨raw.value - lastOf c.previous skipped, raw.timeEnabled, raw.timeRunning⟩ := by
    rintro skipped raw dropped ⟨rest, ready⟩ small
    rw [taken_turn, answer_turn, ← ready, List.append_assoc, List.singleton_append,
      readOff_counted dropped small]
    exact ⟨rfl, rfl⟩
  have passesOn : ∀ skipped e, Discards c.previous skipped →
      skipped.map .ok ++ [.error e] <+: offered next 3 s →
      (c.turn next s).taken = skipped.map .ok ++ [.error e] ∧
        (c.turn next s).answer = .error e := by
    rintro skipped e dropped ⟨rest, ready⟩
    rw [taken_turn, answer_turn, ← ready, List.append_assoc, List.singleton_append,
      readOff_failed dropped e]
    exact ⟨rfl, rfl⟩
  have givesUp : ∀ skipped, Discards c.previous skipped → offered next 3 s = skipped.map .ok →
      (c.turn next s).taken = offered next 3 s ∧
        (c.turn next s).answer = .fail .unexpectedData := by
    intro skipped dropped ready
    rw [taken_turn, answer_turn, ready, readOff_exhausted dropped]
    exact ⟨rfl, rfl⟩
  refine ⟨length_offered next 3 s, ?_, ?_, counts, passesOn, givesUp⟩
  · rw [taken_turn]
    exact taken_readOff_prefix _ _
  · constructor
    · rintro ⟨value, answered⟩
      obtain ⟨skipped, dropped, ⟨raw, rest, ready, small⟩ | ⟨e, rest, ready⟩ | ready⟩ :=
        readOff_cases c.previous (offered next 3 s)
      · exact ⟨skipped, raw, ⟨rest, by simp [turn, ready]⟩, small⟩
      · rw [(passesOn skipped e dropped ⟨rest, by simp [ready]⟩).2] at answered
        cases answered
      · rw [(givesUp skipped dropped ready).2] at answered
        cases answered
    · rintro ⟨earlier, raw, here, small⟩
      obtain ⟨skipped, raw', dropped, before, h⟩ := exists_first_believed here small
      exact ⟨_, (counts skipped raw' dropped before h).2⟩

theorem takenBy_cons {turn : Turn} {history : List Turn} :
    takenBy (turn :: history) = valuesOf turn.taken ++ takenBy history := by
  rw [takenBy, List.flatMap_cons, valuesOf_append]
  rfl

/-- The readings report the plausible differences of what they take. -/
theorem reportedBy_turns (c : Counter) (s : σ) (calls : List (Source σ)) :
    reportedBy (c.turns s calls) =
      (differences c.previous (takenBy (c.turns s calls))).filter fun d => IsPlausible d := by
  induction calls generalizing c s with
  | nil => rfl
  | cons next calls ih =>
    have here : ((c.turn next s).answer.toOption.map CounterValue.value).toList =
        (differences c.previous (valuesOf (c.turn next s).taken)).filter fun d =>
          IsPlausible d := by
      rw [answer_turn, taken_turn]
      exact reported_readOff _ _
    have later := ih (c.sample next s).2.1 (c.sample next s).2.2
    rw [previous_sample] at later
    rw [turns, takenBy_cons, differences_append, List.filter_append, ← here, ← later]
    unfold reportedBy
    rw [List.filterMap_cons]
    cases (c.turn next s).answer.toOption with
    | none => rfl
    | some value => rfl

/-- Every reading of a counter starts from the last value taken before. -/
theorem isExact_of_turns {c : Counter} {s : σ} {calls : List (Source σ)} {before after : List Turn}
    {turn : Turn} (h : c.turns s calls = before ++ turn :: after) :
    turn.IsExact (lastOf c.previous (takenBy before)) := by
  induction calls generalizing c s before with
  | nil => simp [turns] at h
  | cons next calls ih =>
    rw [turns] at h
    cases before with
    | nil =>
      obtain ⟨rfl, _⟩ := List.cons.inj h
      exact isExact_turn c next s
    | cons first before =>
      obtain ⟨rfl, later⟩ := List.cons.inj h
      rw [takenBy_cons, lastOf_append, ← previous_sample]
      exact ih later

/-- **Counts add up**: over the life of a new counter each difference of successive values is
reported once or discarded, and together they make up the last value taken. -/
theorem isAccounted_ofEvent {root : Path} {card device event : UInt32} {c : Counter}
    (new : ofEvent root card device event = .ok c) (s : σ) (calls : List (Source σ)) :
    IsAccounted 0 (c.turns s calls) := by
  have start : c.previous = 0 := by
    unfold ofEvent at new
    split at new
    · cases new
    · cases new
      rfl
  have reported := reportedBy_turns c s calls
  rw [start] at reported
  refine ⟨fun before turn after h => ?_, reported, ?_⟩
  · rw [← start]
    exact isExact_of_turns h
  · rw [reported, discardedBy, sum_filter_add_sum_filter_not, add_sum_differences]

/-- Values of a counter that was reset between its first reading and its second. -/
def resetValues : List (Outcome CounterValue) :=
  [.ok ⟨10, 1, 1⟩, .ok ⟨2 ^ 48 + 100, 2, 2⟩, .ok ⟨2 ^ 48 + 160, 3, 3⟩]

/-- What lies across the reset is in the account, and is not reported. -/
theorem isAccounted_resetValues :
    ∃ c, ofEvent Config.standard.eventSourceRoot 0 0 0 = .ok c ∧
      IsAccounted 0 (c.turns resetValues [nextOf, nextOf]) ∧
      reportedBy (c.turns resetValues [nextOf, nextOf]) = [10, 60] ∧
      discardedBy 0 (c.turns resetValues [nextOf, nextOf]) = [(2 : UInt64) ^ 48 + 90] := by
  have new : ofEvent Config.standard.eventSourceRoot 0 0 0 = .ok
      ⟨0, 0, Config.standard.eventSourceRoot.child (EventGroup.directoryName .xgmi 0), none, 0⟩ :=
    rfl
  refine ⟨_, new, isAccounted_ofEvent new resetValues [nextOf, nextOf], ?_, ?_⟩
  · decide +kernel
  · decide +kernel

end GpuManagement.Counter
