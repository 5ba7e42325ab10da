import GpuManagement.Device.Frequency
import GpuManagement.Proofs.Data.Outcome
import Mathlib.Data.List.Induction

/-!
# What the lines of a table come to

A table of clock levels can be refused for four reasons, and several of them may hold at once.
`FrequencyTable.Answers` says which one is told, in terms of the lines alone: the problem of a line
comes first, as long as the line is within the limit, and only lines that are all in order are
counted. `FrequencyTable.ofLines_eq_iff` says that lines answer this and nothing else.

The current level is found by going through the levels once. What one more level changes
(`currentOf_concat`) says by induction that the last one that is marked is kept. Marks are stars of
lines, so the place is also that of the last line with a star (`marks_eq`).
-/

namespace GpuManagement

open Text

/-- A level is the current one when its line has a star. -/
theorem FrequencyLevel.isCurrent_of_ofLine {line : List Char} {level : FrequencyLevel}
    (h : ofLine line = .ok level) : level.isCurrent = true ↔ '*' ∈ line := by
  unfold ofLine at h
  split at h
  · rename_i read
    cases h
    unfold FrequencyLevel.read at read
    split at read
    · cases read
    · obtain ⟨⟨number, unit, after⟩, _, read⟩ := Outcome.bind_eq_ok.mp read
      obtain ⟨frequency, _, read⟩ := Outcome.bind_eq_ok.mp read
      cases read
      exact List.contains_iff_mem
  · cases h

namespace FrequencyTable

/-! ## The current level -/

/-- The place is that of the last element with the property. -/
def IsLast {α : Type} (p : α → Prop) (xs : List α) (place : Nat) : Prop :=
  (∃ x, xs[place]? = some x ∧ p x) ∧ ∀ later x, place < later → xs[later]? = some x → ¬ p x

/-- One more element is the last with the property, or leaves it to those before. -/
theorem isLast_concat {α : Type} {p : α → Prop} {xs : List α} {x : α} {place : Nat} :
    IsLast p (xs ++ [x]) place ↔ p x ∧ place = xs.length ∨ ¬ p x ∧ IsLast p xs place := by
  have inner : ∀ i, i < xs.length → (xs ++ [x])[i]? = xs[i]? := fun i h =>
    List.getElem?_append_left h
  have ends : (xs ++ [x])[xs.length]? = some x := List.getElem?_concat_length
  have outer : ∀ {i y}, (xs ++ [x])[i]? = some y → i < xs.length ∨ i = xs.length ∧ y = x := by
    intro i y h
    have bound := (List.getElem?_eq_some_iff.mp h).1
    rw [List.length_append, List.length_singleton] at bound
    rcases Nat.lt_or_eq_of_le (Nat.le_of_lt_succ bound) with below | rfl
    · exact .inl below
    · rw [ends] at h
      exact .inr ⟨rfl, (Option.some.inj h).symm⟩
  constructor
  · rintro ⟨⟨y, hy, has⟩, none_after⟩
    rcases outer hy with below | ⟨rfl, rfl⟩
    · refine .inr ⟨none_after _ x below ends, ⟨y, inner _ below ▸ hy, has⟩, fun i z later hz => ?_⟩
      exact none_after i z later ((inner i (List.getElem?_eq_some_iff.mp hz).1).trans hz)
    · exact .inl ⟨has, rfl⟩
  · rintro (⟨has, rfl⟩ | ⟨lacks, ⟨y, hy, has⟩, none_after⟩)
    · refine ⟨⟨x, ends, has⟩, fun i z later hz => ?_⟩
      rcases outer hz with below | ⟨rfl, _⟩
      · exact absurd later (Nat.lt_asymm below)
      · exact absurd later (Nat.lt_irrefl _)
    · refine ⟨⟨y, (inner _ (List.getElem?_eq_some_iff.mp hy).1).trans hy, has⟩,
        fun i z later hz => ?_⟩
      rcases outer hz with below | ⟨rfl, rfl⟩
      · exact none_after i z later (inner i below ▸ hz)
      · exact lacks

/-- Where the last one is depends on which elements have the property only. -/
theorem isLast_iff_map {α : Type} {p : α → Prop} {xs : List α} {place : Nat} :
    IsLast p xs place ↔ IsLast id (xs.map p) place := by
  unfold IsLast
  simp only [List.getElem?_map, Option.map_eq_some_iff, id_eq]
  constructor
  · rintro ⟨⟨x, hx, has⟩, none_after⟩
    refine ⟨⟨p x, ⟨x, hx, rfl⟩, has⟩, ?_⟩
    rintro i _ later ⟨y, hy, rfl⟩
    exact none_after i y later hy
  · rintro ⟨⟨_, ⟨x, hx, rfl⟩, has⟩, none_after⟩
    exact ⟨⟨x, hx, has⟩, fun i y later hy => none_after i _ later ⟨y, hy, rfl⟩⟩

/-- One more level is the current one, or leaves it to those before. -/
theorem currentOf_concat (levels : List FrequencyLevel) (level : FrequencyLevel) :
    currentOf (levels ++ [level]) =
      if level.isCurrent then some levels.length else currentOf levels := by
  unfold currentOf
  rw [List.zipIdx_append, List.foldl_append, Nat.zero_add]
  rfl

/-- The current level is the last one that is marked as such. -/
theorem currentOf_eq_some_iff {levels : List FrequencyLevel} {place : Nat} :
    currentOf levels = some place ↔ IsLast (·.isCurrent = true) levels place := by
  induction levels using List.reverseRecOn with
  | nil => exact ⟨fun h => (by cases h), fun ⟨⟨_, h, _⟩, _⟩ => (by cases h)⟩
  | append_singleton levels level ih =>
    rw [currentOf_concat, isLast_concat, ← ih]
    cases level.isCurrent with
    | true => simp [eq_comm]
    | false => simp

/-- No level is the current one when none is marked as such. -/
theorem currentOf_eq_none_iff {levels : List FrequencyLevel} :
    currentOf levels = none ↔ ∀ level ∈ levels, level.isCurrent = false := by
  induction levels using List.reverseRecOn with
  | nil => exact ⟨fun _ _ h => (by cases h), fun _ => rfl⟩
  | append_singleton levels level ih =>
    rw [currentOf_concat, List.forall_mem_append, List.forall_mem_singleton, ← ih]
    cases level.isCurrent with
    | true => simp
    | false => simp

/-! ## What lines answer -/

/-- The lines that count: those that are not blank. -/
def rows (ls : List (List Char)) : List (List Char) := ls.filter fun line => !allBlank line

/-- A line that a table can have. -/
def IsRow (line : List Char) : Prop := ∃ level, FrequencyLevel.ofLine line = .ok level

/-- The table shows the rows: a level for each of them with its frequency and its lanes, nothing in
the slots after them, and the last row with a star as the current one. -/
structure Shows (rows : List (List Char)) (table : FrequencyTable) : Prop where
  levels : rows.map FrequencyLevel.ofLine = table.levels.map .ok
  count : table.count = rows.length
  current : IsLast ('*' ∈ ·) rows table.current
  bounds : table.current < table.count ∧ table.count ≤ 32
  slots : ∀ i row level, rows[i]? = some row → FrequencyLevel.ofLine row = .ok level →
    table.frequencyAt i = level.frequency ∧ table.lanesAt i = level.lanes.getD 0
  free : ∀ i, rows.length ≤ i → table.frequencyAt i = 0 ∧ table.lanesAt i = 0

/-- What some lines answer: the problem of the first of the first 32 rows that has one; else that
there are more; else that there are none; else that none is the current one; else a table. -/
inductive Answers (ls : List (List Char)) : Outcome FrequencyTable → Prop where
  | malformed (front : List (List Char)) (line : List Char) (back : List (List Char)) {e : Error}
      (split : rows ls = front ++ line :: back) (early : front.length < 32)
      (good : ∀ row ∈ front, IsRow row) (bad : FrequencyLevel.ofLine line = .error e) :
      Answers ls (.error e)
  | oversized (good : ∀ row ∈ (rows ls).take 32, IsRow row) (long : 32 < (rows ls).length) :
      Answers ls (.fail .unexpectedSize)
  | empty (absent : rows ls = []) : Answers ls (.fail .notYetImplemented)
  | unmarked (good : ∀ row ∈ rows ls, IsRow row) (short : (rows ls).length ≤ 32)
      (present : rows ls ≠ []) (plain : ∀ row ∈ rows ls, '*' ∉ row) :
      Answers ls (.fail .notSupported)
  | table {table : FrequencyTable} (shows : Shows (rows ls) table) : Answers ls (.ok table)

variable {ls rs : List (List Char)} {levels : List FrequencyLevel}

/-- The rows with a star are those of the levels that are marked as current. -/
theorem marks_eq (read : rs.map FrequencyLevel.ofLine = levels.map .ok) :
    rs.map ('*' ∈ ·) = levels.map (·.isCurrent = true) := by
  induction rs generalizing levels with
  | nil =>
    rw [List.map_eq_nil_iff.mp read.symm]
    rfl
  | cons row rs ih =>
    obtain ⟨level, levels, rfl, e, read⟩ := List.map_eq_cons_iff.mp read.symm
    rw [List.map_cons, List.map_cons, ih read.symm,
      propext (FrequencyLevel.isCurrent_of_ofLine e.symm)]

/-- A level stands in the place of its row. -/
theorem getElem?_levels (read : rs.map FrequencyLevel.ofLine = levels.map .ok) {i : Nat}
    {row : List Char} {level : FrequencyLevel} (hr : rs[i]? = some row)
    (e : FrequencyLevel.ofLine row = .ok level) : levels[i]? = some level := by
  have same : (rs.map FrequencyLevel.ofLine)[i]? = (levels.map .ok)[i]? := by rw [read]
  rw [List.getElem?_map, List.getElem?_map, hr, Option.map_some, e] at same
  obtain ⟨other, hl, e⟩ := Option.map_eq_some_iff.mp same.symm
  cases e
  exact hl

/-- The rows of a table are its levels, so it shows them when the last one with a star is the
current one. -/
theorem shows_of_levels {table : FrequencyTable}
    (read : rs.map FrequencyLevel.ofLine = table.levels.map .ok) (short : rs.length ≤ 32)
    (current : currentOf table.levels = some table.current) : Shows rs table := by
  have count : table.count = rs.length := by
    have := congrArg List.length read
    rw [List.length_map, List.length_map] at this
    exact this.symm
  have last := currentOf_eq_some_iff.mp current
  refine ⟨read, count, ?_, ⟨?_, count ▸ short⟩, fun i row level hr e => ?_, fun i beyond => ?_⟩
  · rw [isLast_iff_map, marks_eq read, ← isLast_iff_map]
    exact last
  · obtain ⟨⟨_, h, _⟩, _⟩ := last
    exact (List.getElem?_eq_some_iff.mp h).1
  · have hl := getElem?_levels read hr e
    unfold frequencyAt lanesAt frequencies lanes
    rw [List.getD_eq_getElem?_getD, List.getD_eq_getElem?_getD, List.getElem?_map,
      List.getElem?_map, hl]
    exact ⟨rfl, rfl⟩
  · have none : table.levels[i]? = none :=
      List.getElem?_eq_none (Nat.le_trans (Nat.le_of_eq count) beyond)
    unfold frequencyAt lanesAt frequencies lanes
    rw [List.getD_eq_getElem?_getD, List.getD_eq_getElem?_getD, List.getElem?_map,
      List.getElem?_map, none]
    exact ⟨rfl, rfl⟩

theorem Shows.currentOf {table : FrequencyTable} (h : Shows rs table) :
    FrequencyTable.currentOf table.levels = some table.current := by
  rw [currentOf_eq_some_iff, isLast_iff_map, ← marks_eq h.levels, ← isLast_iff_map]
  exact h.current

/-- The lines answer what becomes of the rows within the limit. -/
theorem ofLines_eq (ls : List (List Char)) :
    ofLines ls = ((rows ls).take maxLevels).mapM FrequencyLevel.ofLine >>= fun levels =>
      if maxLevels < (rows ls).length then .fail .unexpectedSize
      else if levels.isEmpty then .fail .notYetImplemented
      else
        match currentOf levels with
        | some current => .ok ⟨levels, current⟩
        | none => .fail .notSupported := rfl

/-- No row has a star exactly when there is no current level. -/
theorem currentOf_eq_none_iff_plain (read : rs.map FrequencyLevel.ofLine = levels.map .ok) :
    currentOf levels = none ↔ ∀ row ∈ rs, '*' ∉ row := by
  have marks : (∀ mark ∈ rs.map ('*' ∈ ·), ¬ mark) ↔
      ∀ mark ∈ levels.map (·.isCurrent = true), ¬ mark := by rw [marks_eq read]
  rw [List.forall_mem_map, List.forall_mem_map] at marks
  rw [currentOf_eq_none_iff, marks]
  simp only [Bool.not_eq_true]

/-- The problem of the first row that has one is told, if it is within the limit. -/
theorem answers_of_error {e : Error}
    (h : ((rows ls).take maxLevels).mapM FrequencyLevel.ofLine = .error e) :
    Answers ls (.error e) := by
  obtain ⟨front, line, back, split, good, bad⟩ := Outcome.mapM_eq_error_iff.mp h
  refine .malformed front line (back ++ (rows ls).drop maxLevels) ?_ ?_ good bad
  · rw [← List.cons_append, ← List.append_assoc, ← split, List.take_append_drop]
  · have bound := List.length_take_le maxLevels (rows ls)
    rw [split, List.length_append, List.length_cons] at bound
    exact Nat.lt_of_lt_of_le (by omega) bound

/-- Rows that are all read are too many, or none, or none of them is the current one, or they are a
table. -/
theorem answers_of_levels
    (h : ((rows ls).take maxLevels).mapM FrequencyLevel.ofLine = .ok levels) :
    Answers ls (ofLines ls) := by
  have good := Outcome.exists_mapM_iff.mp ⟨levels, h⟩
  rw [ofLines_eq, h, Outcome.ok_bind]
  by_cases long : maxLevels < (rows ls).length
  · rw [if_pos long]
    exact .oversized good long
  · have short := Nat.le_of_not_lt long
    rw [List.take_of_length_le short] at h good
    have read := Outcome.mapM_eq_ok_iff.mp h
    rw [if_neg long]
    by_cases empty : levels.isEmpty = true
    · rw [if_pos empty]
      rw [List.isEmpty_iff.mp empty, List.map_nil, List.map_eq_nil_iff] at read
      exact .empty read
    · rw [if_neg empty]
      cases current : currentOf levels with
      | none =>
        refine .unmarked good short ?_ ((currentOf_eq_none_iff_plain read).mp current)
        rintro none
        rw [none, List.map_nil, eq_comm, List.map_eq_nil_iff] at read
        exact empty (List.isEmpty_iff.mpr read)
      | some place =>
        have shows : Shows (rows ls) ⟨levels, place⟩ := shows_of_levels read short current
        exact .table shows

/-- Lines answer the first of the reasons to refuse them, or the table that they are. -/
theorem answers_ofLines (ls : List (List Char)) : Answers ls (ofLines ls) := by
  cases h : ((rows ls).take maxLevels).mapM FrequencyLevel.ofLine with
  | error e =>
    rw [ofLines_eq, h]
    exact answers_of_error h
  | ok levels => exact answers_of_levels h

/-- There is no other answer to them. -/
theorem ofLines_eq_of_answers {answer : Outcome FrequencyTable} (h : Answers ls answer) :
    ofLines ls = answer := by
  rw [ofLines_eq, show maxLevels = 32 from rfl]
  cases h with
  | malformed front line back split early good bad =>
    have short : (rows ls).take 32 = front ++ line :: back.take (31 - front.length) := by
      rw [split, List.take_append, List.take_of_length_le (Nat.le_of_lt early),
        show 32 - front.length = 31 - front.length + 1 by omega, List.take_succ_cons]
    rw [Outcome.mapM_eq_error_iff.mpr ⟨_, _, _, short, good, bad⟩]
    rfl
  | oversized good long =>
    obtain ⟨levels, read⟩ := Outcome.exists_mapM_iff.mpr good
    rw [read, Outcome.ok_bind, if_pos long]
  | empty absent =>
    rw [absent]
    rfl
  | unmarked good short present plain =>
    obtain ⟨levels, h⟩ := Outcome.exists_mapM_iff.mpr good
    have read := Outcome.mapM_eq_ok_iff.mp h
    have filled : ¬ levels.isEmpty = true := by
      intro empty
      rw [List.isEmpty_iff.mp empty, List.map_nil, List.map_eq_nil_iff] at read
      exact present read
    rw [List.take_of_length_le short, h, Outcome.ok_bind, if_neg (Nat.not_lt.mpr short),
      if_neg filled, (currentOf_eq_none_iff_plain read).mpr plain]
  | @table table shows =>
    have short := shows.count ▸ shows.bounds.2
    have filled : ¬ table.levels.isEmpty = true := by
      intro empty
      have bound := shows.bounds.1
      rw [count, List.isEmpty_iff.mp empty] at bound
      exact absurd bound (Nat.not_lt_zero _)
    rw [List.take_of_length_le short, Outcome.mapM_eq_ok_iff.mpr shows.levels, Outcome.ok_bind,
      if_neg (Nat.not_lt.mpr short), if_neg filled, shows.currentOf]

/-- **What lines answer**, and nothing else. -/
theorem ofLines_eq_iff {answer : Outcome FrequencyTable} :
    ofLines ls = answer ↔ Answers ls answer := by
  constructor
  · rintro rfl
    exact answers_ofLines ls
  · exact ofLines_eq_of_answers

end FrequencyTable

end GpuManagement
