import GpuManagement.Interface.Basic
import GpuManagement.Proofs.Session.Usage

/-!
# What stands in the caller's room

A result is written over the first cells of the caller's room, so each cell of the room afterwards
is one of the result or what it was before. For a list the cells written are as many as there are
values and room, whichever is less, and for a text there is one more, for the zero byte.

While a session is open, every call for a list hands over the list that the session has in this way
(`Interface.handsOver`). So a caller that asks without room first, and then comes with room for the
count it was told, is given the whole list. There are two bounds to this: a caller that names no
place for the count is refused, and a count is 32 bits wide, so that a longer list is neither told
nor handed over whole (`Interface.not_handsOver_longList`).
-/

namespace GpuManagement

/-! ## The first cells of a room -/

section Room

variable {α : Type} {written cells : List α} {n : Nat}

/-- Nothing is written beyond the room. -/
theorem length_written_over (fits : written.length ≤ cells.length) :
    (written ++ cells.drop written.length).length = cells.length := by
  rw [List.length_append, List.length_drop]
  omega

theorem getElem?_written_over (inside : n < written.length) :
    (written ++ cells.drop written.length)[n]? = written[n]? :=
  List.getElem?_append_left inside

/-- A cell after those that are written keeps what it has. -/
theorem getElem?_beyond_written (beyond : written.length ≤ n) :
    (written ++ cells.drop written.length)[n]? = cells[n]? := by
  rw [List.getElem?_append_right beyond, List.getElem?_drop, Nat.add_sub_cancel' beyond]

end Room

/-! ## Lists -/

namespace FilledList

variable {α : Type}

/-- The first values stand in the first cells, as many as there is room for, and no other cell has
changed. The count is that of the values written, and the status tells whether some are missing. -/
structure IsFilled (f : FilledList α) (capacity : Nat) (values cells : List α) : Prop where
  length : (f.cellsAfter cells).length = cells.length
  filled : ∀ n < min capacity values.length, (f.cellsAfter cells)[n]? = values[n]?
  untouched : ∀ n, min capacity values.length ≤ n → (f.cellsAfter cells)[n]? = cells[n]?
  count : f.count = min capacity values.length
  status : f.status = if capacity < values.length then .insufficientSize else .success

theorem length_written_ofValues (capacity : Nat) (values : List α) :
    (ofValues true capacity values).written.length = min capacity values.length := List.length_take

theorem isFilled_ofValues {capacity : Nat} {values cells : List α} (fits : capacity ≤ cells.length) :
    (ofValues true capacity values).IsFilled capacity values cells := by
  have many := length_written_ofValues capacity values
  refine ⟨?_, fun n inside => ?_, fun n beyond => ?_, many, ?_⟩
  · exact length_written_over (by omega)
  · calc ((ofValues true capacity values).cellsAfter cells)[n]?
      _ = (values.take capacity)[n]? := getElem?_written_over (by omega)
      _ = values[n]? := List.getElem?_take_of_lt (by omega)
  · exact getElem?_beyond_written (by omega)
  · refine ite_congr (propext ?_) (fun _ => rfl) fun _ => rfl
    show (ofValues true capacity values).written.length < values.length ↔ capacity < values.length
    omega

/-- In room of just the size of the list the whole list stands. -/
theorem IsFilled.cellsAfter_eq {f : FilledList α} {capacity : Nat} {values cells : List α}
    (h : f.IsFilled capacity values cells) (exact_room : cells.length = values.length)
    (enough : values.length ≤ capacity) : f.cellsAfter cells = values := by
  refine List.ext_getElem? fun n => ?_
  by_cases inside : n < values.length
  · exact h.filled n (by omega)
  · rw [h.untouched n (by omega), List.getElem?_eq_none (by omega), List.getElem?_eq_none (by omega)]

end FilledList

/-! ## Texts -/

namespace FilledText

/-- The first bytes of the text stand in the first cells, as many as leave room for a zero byte, and
the zero byte after them; no other cell has changed. The status tells whether some of the text is
missing. -/
structure IsFilled (f : FilledText) (capacity : Nat) (text cells : Bytes) : Prop where
  length : (f.cellsAfter cells).length = cells.length
  filled : ∀ n < min text.length (capacity - 1), (f.cellsAfter cells)[n]? = text[n]?
  terminated : (f.cellsAfter cells)[min text.length (capacity - 1)]? = some 0
  untouched : ∀ n, min text.length (capacity - 1) < n → (f.cellsAfter cells)[n]? = cells[n]?
  status : f.status = if capacity ≤ text.length then .insufficientSize else .success

theorem ofText_of_pos {capacity : Nat} (some_room : 0 < capacity) (text : Bytes) :
    ofText capacity text =
      ⟨if (text.take (capacity - 1)).length < text.length then .insufficientSize else .success,
        text.take (capacity - 1) ++ [0]⟩ := if_neg (Nat.ne_of_gt some_room)

theorem isFilled_ofText {capacity : Nat} {text cells : Bytes} (some_room : 0 < capacity)
    (fits : capacity ≤ cells.length) : (ofText capacity text).IsFilled capacity text cells := by
  have kept : (text.take (capacity - 1)).length = min text.length (capacity - 1) := by
    rw [List.length_take, Nat.min_comm]
  have many : (text.take (capacity - 1) ++ [0]).length = min text.length (capacity - 1) + 1 := by
    rw [List.length_append, kept, List.length_singleton]
  have after : (ofText capacity text).cellsAfter cells =
      (text.take (capacity - 1) ++ [0]) ++ cells.drop (text.take (capacity - 1) ++ [0]).length := by
    rw [ofText_of_pos some_room]
    rfl
  constructor
  · rw [after, length_written_over (by omega)]
  · intro n inside
    rw [after, getElem?_written_over (by omega), List.getElem?_append_left (by omega),
      List.getElem?_take_of_lt (by omega)]
  · rw [after, getElem?_written_over (by omega), ← kept, List.getElem?_concat_length]
  · intro n beyond
    rw [after, getElem?_beyond_written (by omega)]
  · rw [ofText_of_pos some_room, kept]
    refine ite_congr (propext ?_) (fun _ => rfl) fun _ => rfl
    omega

end FilledText

/-! ## Calls -/

namespace Interface

variable {α : Type}

/-- How a list is handed over, whatever the caller had in its room and in its count. -/
structure HandsOverList (values : List α) : Prop where
  /-- A caller that names no place for the count is refused. -/
  unnamed : ∀ hasRoom, fillList none hasRoom (.ok values) = ⟨.invalidArgs, 0, []⟩
  /-- A caller without room learns how many values there are, and nothing is written. -/
  asked : ∀ before, fillList (some before) false (.ok values) =
    ⟨.success, min values.length FilledList.maxCount, []⟩
  filled : ∀ (capacity : UInt32) (cells : List α), capacity.toNat ≤ cells.length →
    (fillList (some capacity) true (.ok values)).IsFilled capacity.toNat values cells

theorem handsOverList (values : List α) : HandsOverList values where
  unnamed := fun _ => rfl
  asked := fun _ => rfl
  filled := fun _ _ fits => FilledList.isFilled_ofValues fits

/-- How a text is handed over. -/
structure HandsOverText (text : Bytes) : Prop where
  refused : fillText 0 (.ok text) = ⟨.invalidArgs, []⟩
  filled : ∀ (capacity : UInt32) (cells : Bytes), 0 < capacity.toNat →
    capacity.toNat ≤ cells.length →
    (fillText capacity (.ok text)).IsFilled capacity.toNat text cells

theorem handsOverText (text : Bytes) : HandsOverText text where
  refused := rfl
  filled := fun _ _ some_room fits => FilledText.isFilled_ofText some_room fits

/-- A call for a list twice: without room, and then with room for the count that was told. -/
def askThenFill (call : Option UInt32 → Bool → FilledList α) (before : UInt32) :
    FilledList α × FilledList α :=
  let asked := call (some before) false
  (asked, call (some (UInt32.ofNat asked.count)) true)

/-- A call hands over a list: the caller learns the count and then finds its room filled, with the
whole list where the count can tell it. -/
structure IsComplete (call : Option UInt32 → Bool → FilledList α) (values : List α) : Prop where
  unnamed : ∀ hasRoom, call none hasRoom = ⟨.invalidArgs, 0, []⟩
  asked : ∀ before, (askThenFill call before).1 =
    ⟨.success, min values.length FilledList.maxCount, []⟩
  filled : ∀ before (cells : List α), cells.length = (askThenFill call before).1.count →
    (askThenFill call before).2.IsFilled (askThenFill call before).1.count values cells
  complete : values.length ≤ FilledList.maxCount →
    ∀ before (cells : List α), cells.length = (askThenFill call before).1.count →
      (askThenFill call before).1.count = values.length ∧
      (askThenFill call before).2.status = .success ∧
      (askThenFill call before).2.cellsAfter cells = values
  /-- Of a longer list something is missing, and the caller is told. -/
  longer : FilledList.maxCount < values.length →
    ∀ before, (askThenFill call before).2.status = .insufficientSize

/-- A call for a list fails, and nothing is written. -/
def Fails (call : Option UInt32 → Bool → FilledList α) (status : Status) : Prop :=
  ∀ capacity hasRoom, (call capacity hasRoom).status = status ∧ (call capacity hasRoom).written = []

/-- Asking tells the count, and coming again is a call with room for that count. -/
theorem askThenFill_fillList (values : List α) (before : UInt32) :
    askThenFill (fun capacity hasRoom => fillList capacity hasRoom (.ok values)) before =
      (⟨.success, min values.length FilledList.maxCount, []⟩,
        fillList (some (UInt32.ofNat (min values.length FilledList.maxCount))) true
          (.ok values)) := rfl

theorem isFilled_askThenFill {values cells : List α}
    (room : cells.length = min values.length FilledList.maxCount) :
    (fillList (some (UInt32.ofNat (min values.length FilledList.maxCount))) true
      (.ok values)).IsFilled (min values.length FilledList.maxCount) values cells := by
  have fits : min values.length FilledList.maxCount < UInt32.size :=
    Nat.lt_of_le_of_lt (Nat.min_le_right _ _) (by decide)
  have filled := (handsOverList values).filled
    (UInt32.ofNat (min values.length FilledList.maxCount)) cells
  rw [UInt32.toNat_ofNat_of_lt' fits] at filled
  exact filled (Nat.le_of_eq room.symm)

theorem isComplete_fillList (values : List α) :
    IsComplete (fun capacity hasRoom => fillList capacity hasRoom (.ok values)) values where
  unnamed := (handsOverList values).unnamed
  asked := fun before => by rw [askThenFill_fillList]
  filled := by
    intro before cells room
    rw [askThenFill_fillList] at room ⊢
    exact isFilled_askThenFill room
  complete := by
    intro few before cells room
    rw [askThenFill_fillList] at room ⊢
    have filled := isFilled_askThenFill room
    simp only [Nat.min_eq_left few] at room filled ⊢
    refine ⟨trivial, ?_, filled.cellsAfter_eq room (Nat.le_refl _)⟩
    rw [filled.status, if_neg (Nat.lt_irrefl _)]
  longer := by
    intro many before
    -- any room of that length, since the status does not depend on what it held
    have room : (values.take FilledList.maxCount).length =
        min values.length FilledList.maxCount := by
      rw [List.length_take, Nat.min_comm]
    rw [askThenFill_fillList, (isFilled_askThenFill room).status, Nat.min_eq_right many.le,
      if_pos many]

/-! ## Calls on the session -/

/-- A call for a list gives what the session has for it: the list, or its failure. -/
structure GivesList (call : Option UInt32 → Bool → FilledList α) (list : Outcome (List α)) :
    Prop where
  complete : ∀ values, list = .ok values → IsComplete call values
  failed : ∀ e, list = .error e → Fails call e.toStatus

/-- The open session is asked. -/
theorem onSession_of_session {i : Interface} {s : Session} (opened : i.registry.session = some s)
    (f : Session → Outcome α) : i.onSession f = reply (f s) := by
  unfold onSession Registry.current
  rw [opened]
  rfl

theorem onSession_of_none {i : Interface} (closed : i.registry.session = none)
    (f : Session → Outcome α) : i.onSession f = .error .initError := by
  unfold onSession Registry.current
  rw [closed]
  rfl

theorem givesList_fillList {i : Interface} {s : Session} (opened : i.registry.session = some s)
    (f : Session → Outcome (List α)) :
    GivesList (fun capacity hasRoom => fillList capacity hasRoom (i.onSession f)) (f s) := by
  rw [onSession_of_session opened]
  refine ⟨fun values listed => ?_, fun e refused => ?_⟩
  · rw [listed]
    exact isComplete_fillList values
  · rw [refused]
    exact fun _ _ => ⟨rfl, rfl⟩

/-- Without a session there is no list. -/
theorem fails_fillList {i : Interface} (closed : i.registry.session = none)
    (f : Session → Outcome (List α)) :
    Fails (fun capacity hasRoom => fillList capacity hasRoom (i.onSession f)) .initError := by
  rw [onSession_of_none closed]
  exact fun _ _ => ⟨rfl, rfl⟩

/-- The calls for lists that are made on the session give what it has. -/
structure GivesLists (i : Interface) (t : Tree) (dv pid : UInt32) : Prop where
  opened : ∀ s, i.registry.session = some s →
    GivesList (i.retiredPages t dv) (s.read t dv .retiredPages) ∧
      GivesList (i.processes t) (s.processes t) ∧
      GivesList (i.processDevices t pid) (s.processDevices t pid)
  closed : i.registry.session = none →
    Fails (i.retiredPages t dv) .initError ∧ Fails (i.processes t) .initError ∧
      Fails (i.processDevices t pid) .initError

/-- **What a caller finds in its room** after a call for a list or for a text, and that it is given
the whole list of the session when it asks how long it is and comes again. -/
theorem handsOver (i : Interface) (t : Tree) (dv pid : UInt32) :
    (∀ (α : Type) (values : List α), HandsOverList values) ∧ (∀ text, HandsOverText text) ∧
      i.GivesLists t dv pid := by
  refine ⟨fun _ values => handsOverList values, handsOverText, fun s opened => ?_, fun closed => ?_⟩
  · exact ⟨givesList_fillList opened _, givesList_fillList opened _, givesList_fillList opened _⟩
  · exact ⟨fails_fillList closed _, fails_fillList closed _, fails_fillList closed _⟩

/-! ### A system with lists -/

/-- A system with a process on two devices, of which each has a page that is retired. -/
def listSystem : Tree :=
  Session.usageSystem (Session.splitAttributes ++
    [("ras", .directory [("gpu_vram_bad_pages", .file (Bytes.ofText "0x1 : 0x1000 : R\n"))])])

/-- The interface while a session is open for one user. -/
def withOpen (s : Session) : Interface :=
  { ofUser 0 with registry := ⟨Session.usageConfig, 0, 1, some s, []⟩ }

/-- What a session on the system has: the retired pages of the first device, the processes, and the
devices of the process. -/
def sampleLists : Option (List RetiredPage × List UInt32 × List UInt32) := do
  let s ← (Session.build listSystem Session.usageConfig 0 ⟨1⟩).toOption
  let pages ← (s.read listSystem 0 .retiredPages).toOption
  let usages ← (s.processes listSystem).toOption
  let devices ← (s.processDevices listSystem 100).toOption
  some (pages, usages.map ProcessUsage.pid, devices)

/-- A session on the system hands over a page, a process and two devices. -/
theorem handsOver_listSystem :
    ∃ s usages, Session.build listSystem Session.usageConfig 0 ⟨1⟩ = .ok s ∧
      usages.map ProcessUsage.pid = [100] ∧
      IsComplete ((withOpen s).retiredPages listSystem 0) [⟨1, 0x1000, .reserved⟩] ∧
      IsComplete ((withOpen s).processes listSystem) usages ∧
      IsComplete ((withOpen s).processDevices listSystem 100) [0, 1] := by
  have lists : sampleLists = some ([⟨1, 0x1000, .reserved⟩], [100], [0, 1]) := by decide +kernel
  unfold sampleLists at lists
  obtain ⟨s, built, lists⟩ := Option.bind_eq_some_iff.mp lists
  obtain ⟨pages, read, lists⟩ := Option.bind_eq_some_iff.mp lists
  obtain ⟨usages, told, lists⟩ := Option.bind_eq_some_iff.mp lists
  obtain ⟨devices, used, lists⟩ := Option.bind_eq_some_iff.mp lists
  obtain ⟨rfl, others⟩ := Prod.mk.inj (Option.some.inj lists)
  obtain ⟨pids, rfl⟩ := Prod.mk.inj others
  obtain ⟨_, _, calls⟩ := handsOver (withOpen s) listSystem 0 100
  obtain ⟨pagesOf, usagesOf, devicesOf⟩ := calls.opened s rfl
  refine ⟨s, usages, Outcome.toOption_eq_some.mp built, pids, ?_, ?_, ?_⟩
  · exact pagesOf.complete _ (Outcome.toOption_eq_some.mp read)
  · exact usagesOf.complete _ (Outcome.toOption_eq_some.mp told)
  · exact devicesOf.complete _ (Outcome.toOption_eq_some.mp used)

/-! ### A list that is longer than a count -/

/-- A list of one item more than a count can tell. -/
def longList : List UInt32 := List.replicate (FilledList.maxCount + 1) 0

/-- A caller that names no place for the count is refused, and of a list that is too long for a
count it is told a smaller number, in room for which the list is not whole. -/
theorem not_handsOver_longList :
    (fillList none false (.ok [7, 8])).status = .invalidArgs ∧
      (fillList (some 0) false (.ok longList)).status = .success ∧
      (fillList (some 0) false (.ok longList)).count ≠ longList.length ∧
      (askThenFill (fun capacity hasRoom => fillList capacity hasRoom (.ok longList)) 0).2.status ≠
        .success := by
  have long : longList.length = FilledList.maxCount + 1 := List.length_replicate
  have more : FilledList.maxCount < longList.length := long ▸ Nat.lt_succ_self _
  obtain ⟨_, told, _, _, cut⟩ := isComplete_fillList longList
  refine ⟨rfl, rfl, ?_, ?_⟩
  · rw [(handsOverList longList).asked, Nat.min_eq_right more.le]
    exact Nat.ne_of_lt more
  · rw [cut more]
    decide

end Interface

end GpuManagement
