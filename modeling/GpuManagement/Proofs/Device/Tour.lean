import GpuManagement.Proofs.Device.Walk
import Mathlib.Data.List.Forall2

/-!
# A walk comes to everything once

A tour is a walk and those that `next` leads to, until it says that there is no more data. A level
of a map is toured when opening it gives a walk whose tour shows the items of the level, one for one
and in their order (`Walk.Covers`). A map is toured on all three of its levels: each call is shown
with its variants below it, and each variant with its sensors (`Walk.ShowsCall`). That a level is
walked from end to end is one induction on its items, used for each level.

The order of what is shown is that of the items, so calls and variants ascend where the map is in
order, and no value comes twice. The sensors of a variant are a list, and come as they are listed.
-/

namespace GpuManagement

/-- A value that comes before another of its kind: a name before a name, a number before a greater
one. -/
def WalkValue.Before : WalkValue → WalkValue → Prop
  | .call a, .call b => KeyOrder.before a b = true
  | .number a, .number b => KeyOrder.before a b = true
  | _, _ => False

namespace Walk

/-! ## Tours -/

/-- A walk and those that moving on leads to, until there is no next. -/
inductive Tours : Walk → List Walk → Prop where
  | last {w : Walk} (ended : w.next = .fail .noData) : Tours w [w]
  | more {w w' : Walk} {ws : List Walk} (moved : w.next = .ok w') (onward : Tours w' ws) :
      Tours w (w :: ws)

/-- Opening a level comes to its items: a level without items is no data, and the tour of any other
shows them one for one. The values that the tour shows are in an order. -/
inductive Covers {α : Type} (Shows : Walk → α → Prop) (order : WalkValue → WalkValue → Prop) :
    Outcome Walk → List α → Prop where
  | nothing : Covers Shows order (.fail .noData) []
  | tour {w : Walk} {ws : List Walk} {items : List α} (tours : Tours w ws)
      (shown : List.Forall₂ Shows ws items) (ordered : (ws.map value).Pairwise order) :
      Covers Shows order (.ok w) items

/-- The walk shows a sensor, below which there is no level. -/
def ShowsSensor (w : Walk) (sensor : UInt64) : Prop :=
  w.value = .number sensor ∧ w.child = .fail .invalidArgs

/-- The walk shows a variant, and below it the sensors as they are listed. -/
def ShowsVariant (w : Walk) (entry : UInt64 × Option Sensors) : Prop :=
  w.value = .number entry.1 ∧ Covers ShowsSensor (fun _ _ => True) w.child (entry.2.getD [])

/-- The walk shows a call, and below it the variants in ascending order. -/
def ShowsCall (w : Walk) (entry : String × Option Variants) : Prop :=
  w.value = .call entry.1 ∧ Covers ShowsVariant WalkValue.Before w.child (entry.2.getD [])

section Level

variable {α : Type} {level : Cursor α → Walk} {Shows : Walk → α → Prop}
variable {order : WalkValue → WalkValue → Prop} {shown : α → WalkValue}

/-- A tour comes to the items from the current one on. -/
theorem exists_tours (next : ∀ c, (level c).next = c.next.map level) (c : Cursor α)
    (shows : ∀ c', c'.current ∈ c.ahead → Shows (level c') c'.current) :
    ∃ ws, Tours (level c) ws ∧ List.Forall₂ Shows ws c.ahead := by
  -- on the items that are still to come, each of which is the current one in its turn
  induction c using Cursor.induction_next with
  | last c ended one =>
    rw [one] at shows ⊢
    refine ⟨[level c], .last ?_, .cons (shows c List.mem_cons_self) .nil⟩
    rw [next, ended]
    rfl
  | more c c' moved ahead ih =>
    rw [ahead] at shows ⊢
    obtain ⟨ws, onward, each⟩ := ih fun c' here => shows c' (List.mem_cons_of_mem _ here)
    refine ⟨level c :: ws, .more ?_ onward, .cons (shows c List.mem_cons_self) each⟩
    rw [next, moved]
    rfl

/-- Walks that show items one for one show their values. -/
theorem map_value_of_forall₂ (values : ∀ w item, Shows w item → w.value = shown item)
    {ws : List Walk} {items : List α} (each : List.Forall₂ Shows ws items) :
    ws.map value = items.map shown := by
  induction each with
  | nil => rfl
  | cons first _ ih => rw [List.map_cons, List.map_cons, values _ _ first, ih]

/-- A level that is opened at its first item is covered. -/
theorem covers_start (shown : α → WalkValue) (next : ∀ c, (level c).next = c.next.map level)
    (values : ∀ w item, Shows w item → w.value = shown item) {items : List α}
    (shows : ∀ c, c.current ∈ items → Shows (level c) c.current)
    (ordered : (items.map shown).Pairwise order) :
    Covers Shows order ((Cursor.start items).map level) items := by
  rcases Cursor.start_cases items with ⟨started, rfl⟩ | ⟨c, started, ahead⟩
  · rw [started]
    exact .nothing
  · rw [← ahead] at shows
    obtain ⟨ws, tours, each⟩ := exists_tours next c shows
    rw [ahead] at each
    rw [started]
    refine .tour tours each ?_
    rw [map_value_of_forall₂ values each]
    exact ordered

end Level

/-! ## The three levels -/

theorem covers_sensors (sensors : Sensors) :
    Covers ShowsSensor (fun _ _ => True) ((Cursor.start sensors).map .sensors) sensors :=
  covers_start .number (fun _ => rfl) (fun _ _ h => h.1) (fun _ _ => ⟨rfl, rfl⟩)
    (List.pairwise_of_forall fun _ _ => trivial)

theorem showsVariant (c : Cursor (UInt64 × Option Sensors)) :
    ShowsVariant (.variants c) c.current := by
  refine ⟨rfl, ?_⟩
  simp only [child]
  cases c.current.2 with
  | none => exact .nothing
  | some sensors => exact covers_sensors sensors

theorem covers_variants {variants : Variants} (ascending : variants.Ascending) :
    Covers ShowsVariant WalkValue.Before ((Cursor.start variants).map .variants) variants :=
  covers_start (fun entry : UInt64 × Option Sensors => .number entry.1) (fun _ => rfl)
    (fun _ _ h => h.1) (fun c _ => showsVariant c) (List.pairwise_map.mpr ascending.entries)

theorem showsCall {c : Cursor (String × Option Variants)}
    (ascending : ∀ variants, c.current.2 = some variants → variants.Ascending) :
    ShowsCall (.calls c) c.current := by
  refine ⟨rfl, ?_⟩
  simp only [child]
  cases below : c.current.2 with
  | none => exact .nothing
  | some variants => exact covers_variants (ascending variants below)

/-! ## Levels that are not opened -/

/-- A level without items is not opened, as there is no data. -/
theorem map_start_eq_fail_iff {α : Type} {level : Cursor α → Walk} {items : List α}
    {status : Status} :
    (Cursor.start items).map level = Outcome.fail status ↔ items = [] ∧ status = .noData := by
  rcases Cursor.start_cases items with ⟨started, rfl⟩ | ⟨c, started, ahead⟩
  · rw [started]
    exact ⟨fun h => (by cases h; exact ⟨rfl, rfl⟩), fun ⟨_, h⟩ => (by rw [h]; rfl)⟩
  · rw [started]
    refine ⟨fun h => (by cases h), fun ⟨empty, _⟩ => ?_⟩
    rw [c.ahead_eq, empty] at ahead
    cases ahead

/-- Nor is one that is not there. -/
theorem child_eq_fail_iff {α : Type} (level : Cursor α → Walk) {w : Walk} {below : Option (List α)}
    {status : Status} (missing : below = none → w.child = .fail .noData)
    (there : ∀ items, below = some items → w.child = (Cursor.start items).map level) :
    w.child = .fail status ↔ (below = none ∨ below = some []) ∧ status = .noData := by
  cases below with
  | none =>
    rw [missing rfl]
    exact ⟨fun h => (by cases h; exact ⟨.inl rfl, rfl⟩), fun ⟨_, h⟩ => (by rw [h])⟩
  | some items =>
    rw [there items rfl, map_start_eq_fail_iff, Option.some_inj]
    simp only [reduceCtorEq, false_or]

/-- The current item has no level below it, or one without items. -/
def IsBarren : Walk → Prop
  | calls c => c.current.2 = none ∨ c.current.2 = some []
  | variants c => c.current.2 = none ∨ c.current.2 = some []
  | sensors _ => False

/-- When the level below the current item is not opened, and how this is told. -/
structure TellsChild (w : Walk) : Prop where
  noData_iff : w.child = .fail .noData ↔ w.IsBarren
  invalidArgs_iff : w.child = .fail .invalidArgs ↔ ∃ c, w = .sensors c

theorem tellsChild (w : Walk) : w.TellsChild := by
  cases w with
  | calls c =>
    have fails : ∀ {status}, (calls c).child = .fail status ↔
        (c.current.2 = none ∨ c.current.2 = some []) ∧ status = .noData :=
      child_eq_fail_iff variants (fun h => by simp only [child, h])
        fun _ h => by simp only [child, h]
    refine ⟨fails.trans (and_iff_left rfl), fun refused => ?_, ?_⟩
    · cases (fails.mp refused).2
    · rintro ⟨_, same⟩
      cases same
  | variants c =>
    have fails : ∀ {status}, (variants c).child = .fail status ↔
        (c.current.2 = none ∨ c.current.2 = some []) ∧ status = .noData :=
      child_eq_fail_iff sensors (fun h => by simp only [child, h])
        fun _ h => by simp only [child, h]
    refine ⟨fails.trans (and_iff_left rfl), fun refused => ?_, ?_⟩
    · cases (fails.mp refused).2
    · rintro ⟨_, same⟩
      cases same
  | sensors c => exact ⟨⟨fun h => (by cases h), False.elim⟩, fun _ => ⟨c, rfl⟩, fun _ => rfl⟩

/-! ## Moving on by a number of items -/

/-- The place of the current item on the level. -/
def pos : Walk → Nat
  | calls c => c.pos
  | variants c => c.pos
  | sensors c => c.pos

/-- The number of items on the level. -/
def size : Walk → Nat
  | calls c => c.items.length
  | variants c => c.items.length
  | sensors c => c.items.length

/-- The walks are over the same items, wherever they are on them. -/
inductive SharesItems : Walk → Walk → Prop where
  | calls {c c' : Cursor (String × Option Variants)} (same : c'.items = c.items) :
      SharesItems (.calls c) (.calls c')
  | variants {c c' : Cursor (UInt64 × Option Sensors)} (same : c'.items = c.items) :
      SharesItems (.variants c) (.variants c')
  | sensors {c c' : Cursor UInt64} (same : c'.items = c.items) :
      SharesItems (.sensors c) (.sensors c')

/-- The walk moved on by a number of items, or on the last one if there are not as many. -/
def forward : Nat → Walk → Walk
  | 0, w => w
  | n + 1, w =>
    match w.next with
    | .ok further => forward n further
    | .error _ => w

variable {w : Walk}

/-- A walk shows its value and then what the next one shows, if there is a next. -/
theorem next_cases (w : Walk) : (w.next = .fail .noData ∧ w.values = [w.value]) ∨
    ∃ further, w.next = .ok further ∧ w.values = w.value :: further.values := by
  cases w with
  | calls c | variants c | sensors c =>
    simp only [next, values, value]
    rcases c.next_cases with ⟨ended, one⟩ | ⟨c', moved, ahead⟩
    · exact .inl ⟨by rw [ended]; rfl, by rw [one]; rfl⟩
    · exact .inr ⟨_, by rw [moved]; rfl, by rw [ahead]; rfl⟩

theorem values_eq_cons (w : Walk) : ∃ later, w.values = w.value :: later := by
  rcases w.next_cases with ⟨_, values⟩ | ⟨_, _, values⟩ <;> exact ⟨_, values⟩

/-- The items from the place of a walk on are those that it has left to show. -/
theorem length_values (w : Walk) : w.values.length = w.size - w.pos := by
  cases w with
  | calls c | variants c | sensors c => exact (List.length_map _).trans List.length_drop

/-- The place of a walk is one of its level. -/
theorem pos_lt_size (w : Walk) : w.pos < w.size := by
  cases w with
  | calls c | variants c | sensors c => exact c.inside

theorem length_values_pos (w : Walk) : 0 < w.values.length := by
  rw [length_values]
  exact Nat.sub_pos_of_lt w.pos_lt_size

/-- Moving on adds one to the place and keeps the items, and happens where there is a next item. -/
theorem next_eq_ok_iff {further : Walk} :
    w.next = .ok further ↔ w.SharesItems further ∧ further.pos = w.pos + 1 := by
  constructor
  · intro moved
    cases w with
    | calls c | variants c | sensors c =>
      obtain ⟨c', further, rfl⟩ := Outcome.map_eq_ok.mp moved
      obtain ⟨same, pos⟩ := Cursor.next_eq_ok.mp further
      exact ⟨by constructor; exact same, pos⟩
  · rintro ⟨shared, pos⟩
    cases shared with
    | calls same | variants same | sensors same =>
      exact Outcome.map_eq_ok.mpr ⟨_, Cursor.next_eq_ok.mpr ⟨same, pos⟩, rfl⟩

theorem SharesItems.refl (w : Walk) : w.SharesItems w := by
  cases w <;> constructor <;> rfl

theorem SharesItems.trans {w₁ w₂ w₃ : Walk} (first : w₁.SharesItems w₂)
    (second : w₂.SharesItems w₃) : w₁.SharesItems w₃ := by
  cases first with
  | calls same | variants same | sensors same =>
    cases second
    constructor
    rename_i further
    exact further.trans same

theorem forward_of_ended (ended : w.next = .fail .noData) (n : Nat) : w.forward n = w := by
  cases n with
  | zero => rfl
  | succ n => rw [forward, ended]; rfl

theorem forward_succ_of_next {further : Walk} (moved : w.next = .ok further) (n : Nat) :
    w.forward (n + 1) = further.forward n := by
  rw [forward, moved]

theorem forward_forward (w : Walk) (m n : Nat) : (w.forward m).forward n = w.forward (m + n) := by
  induction m generalizing w with
  | zero => rw [Nat.zero_add]; rfl
  | succ m ih =>
    rcases w.next_cases with ⟨ended, _⟩ | ⟨further, moved, _⟩
    · rw [forward_of_ended ended, forward_of_ended ended, forward_of_ended ended]
    · rw [Nat.succ_add, forward_succ_of_next moved, forward_succ_of_next moved, ih]

/-- What is left to show after moving on. -/
theorem values_forward (w : Walk) (n : Nat) :
    (w.forward n).values = w.values.drop (min n (w.values.length - 1)) := by
  induction n generalizing w with
  | zero => rw [Nat.zero_min]; rfl
  | succ n ih =>
    rcases w.next_cases with ⟨ended, one⟩ | ⟨further, moved, values⟩
    · rw [forward_of_ended ended, one]
      rfl
    · have more := further.length_values_pos
      have place : min (n + 1) (w.values.length - 1) = min n (further.values.length - 1) + 1 := by
        rw [values, List.length_cons]
        omega
      rw [forward_succ_of_next moved, ih, place, values, List.drop_succ_cons]

section Place

variable {place : Nat}

theorem values_forward_of_lt (within : place < w.values.length) :
    (w.forward place).values = w.values.drop place := by
  rw [values_forward, Nat.min_eq_left (Nat.le_sub_one_of_lt within)]

theorem length_values_forward (within : place < w.values.length) :
    (w.forward place).values.length = w.values.length - place := by
  rw [values_forward_of_lt within, List.length_drop]

/-- As many items further the walk shows what it has there. -/
theorem value_forward (within : place < w.values.length) :
    w.values[place]? = some (w.forward place).value := by
  obtain ⟨later, values⟩ := (w.forward place).values_eq_cons
  rw [← Nat.add_zero place, ← List.getElem?_drop, ← values_forward_of_lt within, values]
  rfl

/-- On the last item there is no more data. -/
theorem next_forward_of_last (last : place + 1 = w.values.length) :
    (w.forward place).next = .fail .noData := by
  rcases (w.forward place).next_cases with ⟨ended, _⟩ | ⟨further, _, values⟩
  · exact ended
  · have left := length_values_forward (Nat.lt_of_succ_le (Nat.le_of_eq last))
    rw [values, List.length_cons] at left
    have more := further.length_values_pos
    omega

/-- Before the last item the walk moves on. -/
theorem next_forward_of_lt (before : place + 1 < w.values.length) :
    (w.forward place).next = .ok (w.forward (place + 1)) := by
  rcases (w.forward place).next_cases with ⟨_, one⟩ | ⟨further, moved, _⟩
  · have left := length_values_forward (Nat.lt_of_succ_lt before)
    rw [one, List.length_singleton] at left
    omega
  · rw [moved, ← forward_forward, forward_succ_of_next moved]
    rfl

/-- Moving on keeps the items. -/
theorem sharesItems_forward (w : Walk) (n : Nat) : w.SharesItems (w.forward n) := by
  induction n generalizing w with
  | zero => exact .refl w
  | succ n ih =>
    rcases w.next_cases with ⟨ended, _⟩ | ⟨further, moved, _⟩
    · rw [forward_of_ended ended]
      exact .refl w
    · rw [forward_succ_of_next moved]
      exact (next_eq_ok_iff.mp moved).1.trans (ih further)

/-- As many items further is as many places further. -/
theorem pos_forward (within : place < w.values.length) :
    (w.forward place).pos = w.pos + place := by
  induction place with
  | zero => rfl
  | succ place ih =>
    rw [(next_eq_ok_iff.mp (next_forward_of_lt within)).2, ih (Nat.lt_of_succ_lt within)]
    rfl

/-- However often a walk is moved on, it is at one of its items. -/
theorem forward_eq_forward_min (w : Walk) (n : Nat) :
    w.forward n = w.forward (min n (w.values.length - 1)) := by
  have more := w.length_values_pos
  rcases Nat.le_total n (w.values.length - 1) with inside | beyond
  · rw [Nat.min_eq_left inside]
  · have ended := next_forward_of_last (w := w) (Nat.sub_add_cancel more)
    rw [Nat.min_eq_right beyond, ← forward_of_ended ended (n - (w.values.length - 1)),
      forward_forward, Nat.add_sub_cancel' beyond]

end Place

end Walk

/-! ## Maps -/

namespace Capabilities

variable {m : Capabilities}

/-- A walk over the map comes to all of it, and there is no walk when the map is empty. -/
structure IsToured (m : Capabilities) : Prop where
  covered : Walk.Covers Walk.ShowsCall WalkValue.Before (Walk.start m) m
  noData_iff : Walk.start m = .fail .noData ↔ m = []

/-- A map in order is toured. -/
theorem IsOrdered.isToured (ordered : m.IsOrdered) : m.IsToured where
  covered := by
    refine Walk.covers_start (fun entry : String × Option Variants => .call entry.1)
      (fun _ => rfl) (fun _ _ h => h.1) (fun c here => Walk.showsCall fun variants found => ?_)
      (List.pairwise_map.mpr ordered.calls.entries)
    refine ordered.variants c.current.1 variants ((Table.mem_iff_get? ordered.calls).mp ?_)
    rwa [← found]
  noData_iff := Walk.map_start_eq_fail_iff.trans (and_iff_left rfl)

end Capabilities

end GpuManagement
