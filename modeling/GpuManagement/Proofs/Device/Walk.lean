import GpuManagement.Proofs.Data.Outcome
import GpuManagement.Proofs.Device.Capability

/-!
# What a walk shows is supported

A walk moves over one level of a map at a time: to the next item, or to the level below the current
one. `Walk.Visits` are the walks that such moves lead to, each with the values that it went below,
and `Yields` are the paths of values that they show. Every move stays in the map and every item is
come to, so these are the paths that are in the map (`yields_iff_contains`).

A map that comes from tables answers each of them (`isAnswered_of_yields`): a call and a variant
are supported as they are shown, and a sensor is by its index. A sensor that is shown with a kind
above its index is not supported as shown, since `check` takes the kind off the stored sensors but
not off the one it is asked for.
-/

namespace GpuManagement

namespace Cursor

variable {α : Type}

/-- A cursor starts on the first of the items. -/
theorem start_eq_ok {items : List α} {c : Cursor α} :
    start items = .ok c ↔ c.items = items ∧ c.pos = 0 := by
  obtain ⟨own, pos, inside⟩ := c
  unfold start
  split
  · constructor
    · intro h
      cases h
      exact ⟨rfl, rfl⟩
    · rintro ⟨rfl, rfl⟩
      rfl
  · rename_i none
    constructor
    · intro h
      cases h
    · rintro ⟨rfl, rfl⟩
      exact absurd inside none

/-- Moving on adds one to the place and keeps the items. -/
theorem next_eq_ok {c c' : Cursor α} :
    c.next = .ok c' ↔ c'.items = c.items ∧ c'.pos = c.pos + 1 := by
  obtain ⟨items, pos, inside⟩ := c'
  unfold next
  split
  · constructor
    · intro h
      cases h
      exact ⟨rfl, rfl⟩
    · rintro ⟨rfl, rfl⟩
      rfl
  · rename_i none
    constructor
    · intro h
      cases h
    · rintro ⟨rfl, rfl⟩
      exact absurd inside none

theorem current_mem_items (c : Cursor α) : c.current ∈ c.items := List.get_mem _ _

theorem ahead_eq (c : Cursor α) : c.ahead = c.current :: c.items.drop (c.pos + 1) :=
  List.drop_eq_getElem_cons c.inside

theorem ahead_of_pos {c : Cursor α} (first : c.pos = 0) : c.ahead = c.items := by
  unfold ahead
  rw [first, List.drop_zero]

/-- A cursor starts on some items, or there is none to start on. -/
theorem start_cases (items : List α) : (start items = .fail .noData ∧ items = []) ∨
    ∃ c, start items = .ok c ∧ c.ahead = items := by
  by_cases some : 0 < items.length
  · exact .inr ⟨⟨items, 0, some⟩, dif_pos some, ahead_of_pos rfl⟩
  · exact .inl ⟨dif_neg some, List.length_eq_zero_iff.mp (Nat.eq_zero_of_not_pos some)⟩

/-- A cursor is on the last of its items, or moves on to the next one. -/
theorem next_cases (c : Cursor α) : (c.next = .fail .noData ∧ c.ahead = [c.current]) ∨
    ∃ c', c.next = .ok c' ∧ c.ahead = c.current :: c'.ahead := by
  by_cases more : c.pos + 1 < c.items.length
  · exact .inr ⟨⟨c.items, c.pos + 1, more⟩, dif_pos more, c.ahead_eq⟩
  · refine .inl ⟨dif_neg more, ?_⟩
    rw [ahead_eq, List.drop_eq_nil_of_le (Nat.le_of_not_lt more)]

/-- What holds of a cursor on the last item, and of one that moves on when it holds of the next,
holds of every cursor. -/
theorem induction_next {motive : Cursor α → Prop}
    (last : ∀ c, c.next = .fail .noData → c.ahead = [c.current] → motive c)
    (more : ∀ c c', c.next = .ok c' → c.ahead = c.current :: c'.ahead → motive c' → motive c)
    (c : Cursor α) : motive c := by
  generalize left : c.ahead = items
  induction items generalizing c with
  | nil =>
    rw [ahead_eq] at left
    cases left
  | cons item items ih =>
    rcases c.next_cases with ⟨ended, one⟩ | ⟨c', moved, ahead⟩
    · exact last c ended one
    · rw [ahead, List.cons.injEq] at left
      exact more c c' moved ahead (ih c' left.2)

end Cursor

/-! ## Where walks lead -/

namespace Walk

/-- The walks that moves from the start of a map lead to, with the values above the level. -/
inductive Visits (m : Capabilities) : List WalkValue → Walk → Prop where
  | start {w : Walk} (first : Walk.start m = .ok w) : Visits m [] w
  | next {above : List WalkValue} {w w' : Walk} (before : Visits m above w)
      (moved : w.next = .ok w') : Visits m above w'
  | child {above : List WalkValue} {w w' : Walk} (before : Visits m above w)
      (opened : w.child = .ok w') : Visits m (above ++ [w.value]) w'

/-- The level of a walk, with its items in the map below the values above it. -/
inductive LiesIn (m : Capabilities) : List WalkValue → Walk → Prop where
  | calls {c : Cursor (String × Option Variants)} (here : c.items ⊆ m) : LiesIn m [] (.calls c)
  | variants {name : String} {ids : Variants} {c : Cursor (UInt64 × Option Sensors)}
      (call : (name, some ids) ∈ m) (here : c.items ⊆ ids) : LiesIn m [.call name] (.variants c)
  | sensors {name : String} {ids : Variants} {id : UInt64} {list : Sensors} {c : Cursor UInt64}
      (call : (name, some ids) ∈ m) (variant : (id, some list) ∈ ids) (here : c.items ⊆ list) :
      LiesIn m [.call name, .number id] (.sensors c)

variable {m : Capabilities} {above : List WalkValue} {w w' : Walk}

theorem liesIn_start (h : Walk.start m = .ok w) : LiesIn m [] w := by
  obtain ⟨c, first, rfl⟩ := Outcome.map_eq_ok.mp h
  exact .calls ((Cursor.start_eq_ok.mp first).1 ▸ List.Subset.refl _)

/-- The next item is on the same level. -/
theorem LiesIn.next (h : LiesIn m above w) (moved : w.next = .ok w') : LiesIn m above w' := by
  have stays : ∀ {α : Type} {c c' : Cursor α} {items : List α}, c.items ⊆ items →
      c.next = .ok c' → c'.items ⊆ items := by
    intro α c c' items here further
    rwa [(Cursor.next_eq_ok.mp further).1]
  cases h with
  | calls here =>
    obtain ⟨c', further, rfl⟩ := Outcome.map_eq_ok.mp moved
    exact .calls (stays here further)
  | variants call here =>
    obtain ⟨c', further, rfl⟩ := Outcome.map_eq_ok.mp moved
    exact .variants call (stays here further)
  | sensors call variant here =>
    obtain ⟨c', further, rfl⟩ := Outcome.map_eq_ok.mp moved
    exact .sensors call variant (stays here further)

/-- The level below an item is the one that the map has for it. -/
theorem LiesIn.child (h : LiesIn m above w) (opened : w.child = .ok w') :
    LiesIn m (above ++ [w.value]) w' := by
  cases h with
  | @calls c here =>
    have listed := here c.current_mem_items
    simp only [Walk.child, Walk.value] at opened ⊢
    generalize c.current = item at listed opened ⊢
    obtain ⟨name, entry⟩ := item
    cases entry with
    | none => cases opened
    | some ids =>
      obtain ⟨c', first, rfl⟩ := Outcome.map_eq_ok.mp opened
      exact .variants listed ((Cursor.start_eq_ok.mp first).1 ▸ List.Subset.refl _)
  | @variants name ids c call here =>
    have listed := here c.current_mem_items
    simp only [Walk.child, Walk.value] at opened ⊢
    generalize c.current = item at listed opened ⊢
    obtain ⟨id, entry⟩ := item
    cases entry with
    | none => cases opened
    | some list =>
      obtain ⟨c', first, rfl⟩ := Outcome.map_eq_ok.mp opened
      exact .sensors call listed ((Cursor.start_eq_ok.mp first).1 ▸ List.Subset.refl _)
  | sensors => cases opened

/-- Every walk that moves lead to lies in the map. -/
theorem Visits.liesIn (h : Visits m above w) : LiesIn m above w := by
  induction h with
  | start first => exact liesIn_start first
  | next _ moved ih => exact ih.next moved
  | child _ opened ih => exact ih.child opened

/-- From an item every one after it on the level is come to. -/
theorem Visits.reaches {α : Type} {level : Cursor α → Walk}
    (next : ∀ c, (level c).next = c.next.map level) (c : Cursor α) :
    Visits m above (level c) →
      ∀ item ∈ c.ahead, ∃ c', c'.current = item ∧ Visits m above (level c') := by
  induction c using Cursor.induction_next with
  | last c _ one =>
    intro h item here
    rw [one] at here
    exact ⟨c, (List.mem_singleton.mp here).symm, h⟩
  | more c c' moved ahead ih =>
    intro h item here
    rw [ahead] at here
    rcases List.mem_cons.mp here with rfl | later
    · exact ⟨c, rfl, h⟩
    · exact ih (h.next (by rw [next, moved]; rfl)) item later

/-- Where a walk starts on some items, each of them is come to. -/
theorem Visits.reaches_of_start {α : Type} {level : Cursor α → Walk}
    (next : ∀ c, (level c).next = c.next.map level) {items : List α}
    (started : ∀ c, Cursor.start items = .ok c → Visits m above (level c)) {item : α}
    (here : item ∈ items) : ∃ c, c.current = item ∧ Visits m above (level c) := by
  let first : Cursor α := ⟨items, 0, List.length_pos_of_mem here⟩
  have start : Cursor.start items = .ok first := Cursor.start_eq_ok.mpr ⟨rfl, rfl⟩
  exact Visits.reaches next first (started first start) item here

/-- Below an item that is come to, each of the items there is come to. -/
theorem Visits.reaches_below {α : Type} {level : Cursor α → Walk}
    (next : ∀ c, (level c).next = c.next.map level) {parent : Walk} (visited : Visits m above parent)
    {items : List α} (opened : parent.child = (Cursor.start items).map level) {item : α}
    (here : item ∈ items) :
    ∃ c, c.current = item ∧ Visits m (above ++ [parent.value]) (level c) := by
  refine Visits.reaches_of_start next (fun c first => visited.child ?_) here
  rw [opened, first]
  rfl

end Walk

namespace Capabilities

/-- A path of values that a walk over the map shows: those it went below, and the one it is on. -/
def Yields (m : Capabilities) (path : List WalkValue) : Prop :=
  ∃ above w, Walk.Visits m above w ∧ path = above ++ [w.value]

/-- A path of values that is in the map. -/
inductive Contains (m : Capabilities) : List WalkValue → Prop where
  | call {name : String} {entry : Option Variants} (call : (name, entry) ∈ m) :
      Contains m [.call name]
  | variant {name : String} {ids : Variants} {id : UInt64} {entry : Option Sensors}
      (call : (name, some ids) ∈ m) (variant : (id, entry) ∈ ids) :
      Contains m [.call name, .number id]
  | sensor {name : String} {ids : Variants} {id : UInt64} {list : Sensors} {sensor : UInt64}
      (call : (name, some ids) ∈ m) (variant : (id, some list) ∈ ids) (here : sensor ∈ list) :
      Contains m [.call name, .number id, .number sensor]

variable {m : Capabilities} {path : List WalkValue}

theorem visits_call {entry : String × Option Variants} (call : entry ∈ m) :
    ∃ c, c.current = entry ∧ Walk.Visits m [] (.calls c) := by
  refine Walk.Visits.reaches_of_start (fun _ => rfl) (fun c first => ?_) call
  exact .start (Outcome.map_eq_ok.mpr ⟨c, first, rfl⟩)

theorem visits_variant {name : String} {ids : Variants} {entry : UInt64 × Option Sensors}
    (call : (name, some ids) ∈ m) (variant : entry ∈ ids) :
    ∃ c, c.current = entry ∧ Walk.Visits m [.call name] (.variants c) := by
  obtain ⟨parent, shown, visited⟩ := visits_call call
  have opened : (Walk.calls parent).child = (Cursor.start ids).map .variants := by
    simp only [Walk.child, shown]
  have below := Walk.Visits.reaches_below (fun _ => rfl) visited opened variant
  rwa [Walk.value, shown] at below

theorem visits_sensor {name : String} {ids : Variants} {id : UInt64} {list : Sensors}
    {sensor : UInt64} (call : (name, some ids) ∈ m) (variant : (id, some list) ∈ ids)
    (here : sensor ∈ list) :
    ∃ c, c.current = sensor ∧ Walk.Visits m [.call name, .number id] (.sensors c) := by
  obtain ⟨parent, shown, visited⟩ := visits_variant call variant
  have opened : (Walk.variants parent).child = (Cursor.start list).map .sensors := by
    simp only [Walk.child, shown]
  have below := Walk.Visits.reaches_below (fun _ => rfl) visited opened here
  rwa [Walk.value, shown] at below

/-- A walk over a map shows what is in the map and nothing else. -/
theorem yields_iff_contains : m.Yields path ↔ m.Contains path := by
  constructor
  · rintro ⟨above, w, visited, rfl⟩
    cases visited.liesIn with
    | @calls c here => exact .call (here c.current_mem_items)
    | @variants name ids c call here => exact .variant call (here c.current_mem_items)
    | @sensors name ids id list c call variant here =>
      exact .sensor call variant (here c.current_mem_items)
  · intro h
    cases h with
    | call call =>
      obtain ⟨c, shown, visited⟩ := visits_call call
      exact ⟨_, _, visited, by rw [Walk.value, shown]; rfl⟩
    | variant call variant =>
      obtain ⟨c, shown, visited⟩ := visits_variant call variant
      exact ⟨_, _, visited, by rw [Walk.value, shown]; rfl⟩
    | sensor call variant sensor =>
      obtain ⟨c, shown, visited⟩ := visits_sensor call variant sensor
      exact ⟨_, _, visited, by rw [Walk.value, shown]; rfl⟩

/-! ## Maps that come from tables -/

/-- The maps that are made: from a table for some files, and from two such maps. -/
inductive IsDerived : Capabilities → Prop where
  | derive (table : List Requirement) (files : FileSet)
      (kindOf : SensorFamily → UInt32 → UInt64) : IsDerived (derive table files kindOf)
  | merge {first second : Capabilities} (left : IsDerived first) (right : IsDerived second) :
      IsDerived (first.merge second)

/-- The calls of a map and the variants of each call come in order. -/
structure IsOrdered (m : Capabilities) : Prop where
  calls : m.Ascending
  variants : ∀ name ids, m.get? name = some (some ids) → ids.Ascending

/-- What is found for a call has its variants in order. -/
theorem ascending_of_support? {r : Requirement} {files : FileSet}
    {kindOf : SensorFamily → UInt32 → UInt64} {ids : Variants}
    (h : r.support? files kindOf = some (some ids)) : ids.Ascending := by
  unfold Requirement.support? at h
  split at h
  · cases h
  · split at h
    · obtain ⟨_, _, rfl⟩ := Option.map_eq_some_iff.mp (Option.some.inj h)
      exact List.pairwise_singleton _ _
    · split at h
      · cases h
      · cases h
        exact Table.ascending_ofEntries _

theorem isOrdered_derive (table : List Requirement) (files : FileSet)
    (kindOf : SensorFamily → UInt32 → UInt64) : (derive table files kindOf).IsOrdered where
  calls := Table.ascending_ofEntries _
  variants := fun name ids found => by
    obtain ⟨r, _, h⟩ := List.mem_filterMap.mp (Table.mem_of_get?_ofEntries found)
    obtain ⟨entry, supported, e⟩ := Option.map_eq_some_iff.mp h
    cases e
    exact ascending_of_support? supported

theorem ascending_merge {first second : Capabilities} (h : first.Ascending) :
    (first.merge second).Ascending := by
  unfold merge
  induction second generalizing first with
  | nil => exact h
  | cons entry rest ih =>
    rw [List.foldl_cons]
    split
    · exact ih h
    · exact ih (h.insert entry.1 entry.2)

theorem IsOrdered.merge {first second : Capabilities} (h : first.IsOrdered)
    (h' : second.IsOrdered) : (first.merge second).IsOrdered where
  calls := ascending_merge h.calls
  variants := fun name ids found => by
    rw [get?_merge, Option.or_eq_some_iff] at found
    rcases found with found | ⟨_, found⟩
    · exact h.variants name ids found
    · exact h'.variants name ids found

/-- Every map that is made is in order. -/
theorem IsDerived.isOrdered (h : m.IsDerived) : m.IsOrdered := by
  induction h with
  | derive table files kindOf => exact isOrdered_derive table files kindOf
  | merge _ _ left right => exact left.merge right

/-! ## What is shown is supported -/

/-- A call is supported as soon as the map has it. -/
theorem check_any {name : String} {entry : Option Variants} (found : m.get? name = some entry) :
    m.check name anyVariant anyVariant = .ok () := by
  unfold check
  rw [found]
  rfl

/-- A variant that the map has decides by its sensors. -/
theorem check_eq_of_variant {name : String} {ids : Variants} {id : UInt64}
    {entry : Option Sensors} (call : m.get? name = some (some ids))
    (variant : ids.get? id = some entry) (sensor : UInt64) :
    m.check name id sensor = if hasSensor entry sensor then .ok () else .fail .invalidArgs := by
  have answer : hasVariant (some ids) id sensor = hasSensor entry sensor := by
    unfold hasVariant
    rw [Option.bind_some, variant]
  unfold check
  rw [call]
  simp only [answer]
  by_cases any : id = anyVariant ∧ sensor = anyVariant
  · obtain ⟨rfl, rfl⟩ := any
    rfl
  · have some : (id == anyVariant && sensor == anyVariant) = false := by
      rw [Bool.eq_false_iff, ne_eq, Bool.and_eq_true, beq_iff_eq, beq_iff_eq]
      exact any
    rw [some, Bool.false_or]

theorem index_index (sensor : UInt64) :
    Sensors.index (Sensors.index sensor) = Sensors.index sensor := by
  unfold Sensors.index
  rw [UInt64.and_assoc, UInt64.and_self]

/-- A stored sensor is found by its index. -/
theorem hasSensor_index {list : Sensors} {sensor : UInt64} (here : sensor ∈ list) :
    hasSensor (some list) (Sensors.index sensor) = true := by
  unfold hasSensor
  rw [Bool.or_eq_true, List.any_eq_true]
  exact .inr ⟨sensor, here, beq_self_eq_true _⟩

/-- A stored sensor is found as it is stored when it has no kind, or when it looks like any. -/
theorem hasSensor_iff {list : Sensors} {sensor : UInt64} (here : sensor ∈ list) :
    hasSensor (some list) sensor = true ↔ Sensors.index sensor = sensor ∨ sensor = anyVariant := by
  constructor
  · intro h
    unfold hasSensor at h
    rw [Bool.or_eq_true, List.any_eq_true] at h
    rcases h with any | ⟨packed, _, same⟩
    · exact .inr (beq_iff_eq.mp any)
    · rw [← beq_iff_eq.mp same]
      exact .inl (index_index packed)
  · rintro (plain | rfl)
    · rw [← plain]
      exact hasSensor_index here
    · rfl

/-- How a map answers for the paths that are shown. A call and a variant are supported. A sensor is
supported by its index, and as it is shown exactly when that is no more than the index, or the
number for any sensor. -/
inductive IsAnswered (m : Capabilities) : List WalkValue → Prop where
  | call {name : String} (supported : m.check name anyVariant anyVariant = .ok ()) :
      IsAnswered m [.call name]
  | variant {name : String} {id : UInt64} (supported : m.check name id anyVariant = .ok ()) :
      IsAnswered m [.call name, .number id]
  | sensor {name : String} {id sensor : UInt64}
      (byIndex : m.check name id (Sensors.index sensor) = .ok ())
      (shown : m.check name id sensor =
        if Sensors.index sensor = sensor ∨ sensor = anyVariant then .ok ()
        else .fail .invalidArgs) :
      IsAnswered m [.call name, .number id, .number sensor]

/-- **What a walk shows is supported**, but for the kinds of sensors. -/
theorem isAnswered_of_yields (derived : m.IsDerived) (shown : m.Yields path) :
    m.IsAnswered path := by
  obtain ⟨calls, variants⟩ := derived.isOrdered
  cases yields_iff_contains.mp shown with
  | call call => exact .call (check_any ((Table.mem_iff_get? calls).mp call))
  | @variant name ids id entry call variant =>
    have call := (Table.mem_iff_get? calls).mp call
    have variant := (Table.mem_iff_get? (variants name ids call)).mp variant
    refine .variant ?_
    rw [check_eq_of_variant call variant]
    rfl
  | @sensor name ids id list sensor call variant here =>
    have call := (Table.mem_iff_get? calls).mp call
    have variant := (Table.mem_iff_get? (variants name ids call)).mp variant
    refine .sensor ?_ ?_
    · rw [check_eq_of_variant call variant, if_pos (hasSensor_index here)]
    · rw [check_eq_of_variant call variant]
      exact ite_congr (propext (hasSensor_iff here)) (fun _ => rfl) fun _ => rfl

/-! ### Two labelled temperatures -/

/-- The files of two temperatures with labels. -/
def twoTemperatures : FileSet := ⟨["temp1_input", "temp1_label", "temp2_input", "temp2_label"]⟩

/-- The second temperature has the kind 1. -/
def secondKind (_ : SensorFamily) (i : UInt32) : UInt64 := if i = 2 then 1 else 0

/-- The second temperature of a card with a name is shown with its kind, and is supported by its
index. -/
theorem isAnswered_secondTemperature :
    ((derive [.plain "rsmi_dev_name_get" ["vendor"]] ⟨["vendor"]⟩ secondKind).merge
        (derive Requirement.ofMonitor twoTemperatures secondKind)).IsAnswered
      [.call "rsmi_dev_temp_metric_get", .number 0, .number 0x10002] := by
  refine isAnswered_of_yields (.merge (.derive _ _ _) (.derive _ _ _)) ?_
  have call : ("rsmi_dev_temp_metric_get", some [(0, some [1, 0x10002])]) ∈
      (derive [.plain "rsmi_dev_name_get" ["vendor"]] ⟨["vendor"]⟩ secondKind).merge
        (derive Requirement.ofMonitor twoTemperatures secondKind) := by decide +kernel
  exact yields_iff_contains.mpr
    (.sensor call List.mem_cons_self (List.mem_cons_of_mem _ List.mem_cons_self))

/-- The indices of two temperatures are small, the second one is shown with its kind, and asking
for what is shown is a wrong argument. -/
theorem check_refuses_shown_kind :
    (∀ r ∈ Requirement.ofMonitor, ∀ file ∈ r.mandatory ++ r.variants.map Prod.snd,
      ∀ i ∈ twoTemperatures.indices file, i < 0x10000) ∧
    (derive Requirement.ofMonitor twoTemperatures secondKind).Yields
      [.call "rsmi_dev_temp_metric_get", .number 0, .number 0x10002] ∧
    (derive Requirement.ofMonitor twoTemperatures secondKind).check
      "rsmi_dev_temp_metric_get" 0 0x10002 = .fail .invalidArgs := by
  have map : derive Requirement.ofMonitor twoTemperatures secondKind =
      [("rsmi_dev_temp_metric_get", some [(0, some [1, 0x10002])])] := by decide +kernel
  have small : Requirement.ofMonitor.all (fun r => (r.mandatory ++ r.variants.map Prod.snd).all
      fun file => (twoTemperatures.indices file).all fun i => decide (i < 0x10000)) = true := by
    decide +kernel
  refine ⟨fun r hr file hf i hi => ?_, yields_iff_contains.mpr ?_, ?_⟩
  · have listed := List.all_eq_true.mp (List.all_eq_true.mp small r hr) file hf
    exact of_decide_eq_true (List.all_eq_true.mp listed i hi)
  · rw [map]
    exact .sensor List.mem_cons_self List.mem_cons_self
      (List.mem_cons_of_mem _ List.mem_cons_self)
  · rw [map]
    rfl

end Capabilities

end GpuManagement
