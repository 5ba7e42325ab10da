import GpuManagement.Interface.Basic
import GpuManagement.Proofs.Device.Tour

/-!
# Walks by their handles

The callers of the interface hold walks by handles and move them as they like. A walk is at one
handle, and a call changes no other: it leaves the walks alone, or adds one at the end, or puts
something in the place of the handle that it names (`Interface.walks_after_cases`). So the place of
a walk is told by how often its own handle was moved on, whatever was done between
(`Interface.walks_run`), and there the walk shows the item with that number, and the last one from
then on (`Interface.IsAt`).
-/

namespace GpuManagement

/-- A call about walks. -/
inductive WalkCall where
  | start (t : Tree) (dv : UInt32) (hasPlace : Bool)
  | child (parent : Option Nat) (hasPlace : Bool)
  | next (handle : Option Nat)
  | value (handle : Option Nat) (hasPlace : Bool)
  | close (handle : Option Nat)

/-- Whether a call moves the walk of a handle on. -/
def WalkCall.isNext (n : Nat) : WalkCall → Bool
  | .next handle => handle == some n
  | _ => false

namespace Interface

/-- The interface after a call; a value is taken without a change. -/
def after (i : Interface) : WalkCall → Interface
  | .start t dv hasPlace => (i.openWalk t dv hasPlace).2
  | .child parent hasPlace => (i.openChild parent hasPlace).2
  | .next handle => (i.nextWalk handle).2
  | .value _ _ => i
  | .close handle => (i.closeWalk handle).2

/-- The interface after some calls. -/
def run (i : Interface) (calls : List WalkCall) : Interface := calls.foldl after i

variable {i : Interface} {n : Nat} {w : Walk}

/-! ## One call -/

theorem handleAt_eq_ok {α : Type} {handles : List (Option α)} {handle : Option Nat} {x : α} :
    handleAt handles handle = .ok (n, x) ↔ handle = some n ∧ handles[n]? = some (some x) := by
  cases handle with
  | none => exact ⟨fun h => (by cases h), fun ⟨h, _⟩ => (by cases h)⟩
  | some k =>
    simp only [handleAt, Option.some_inj]
    constructor
    · intro h
      split at h
      · rename_i held
        cases h
        exact ⟨rfl, held⟩
      · cases h
    · rintro ⟨rfl, held⟩
      rw [held]

theorem walks_withSession {α : Type} (i : Interface) (f : Session → Outcome α × Session) :
    (i.withSession f).2.walks = i.walks := by
  unfold withSession
  split <;> rfl

/-- A call leaves the walks alone, adds one, or puts something in the place of its handle. -/
theorem walks_after_cases (i : Interface) (call : WalkCall) :
    (i.after call).walks = i.walks ∨ (∃ w, (i.after call).walks = i.walks ++ [some w]) ∨
      ∃ n x, (call = .next (some n) ∨ call = .close (some n)) ∧
        (i.after call).walks = i.walks.set n x := by
  cases call with
  | start t dv hasPlace =>
    have same := i.walks_withSession fun s =>
      if hasPlace then s.walk t dv else (.fail .invalidArgs, s)
    simp only [after, openWalk]
    generalize i.withSession _ = called at same ⊢
    obtain ⟨answer, i'⟩ := called
    cases answer with
    | error _ => exact .inl same
    | ok w => exact .inr (.inl ⟨w, congrArg (· ++ [some w]) same⟩)
  | child parent hasPlace =>
    simp only [after, openChild]
    split
    · exact .inl rfl
    · split
      · split
        · exact .inl rfl
        · exact .inr (.inl ⟨_, rfl⟩)
      · exact .inl rfl
  | next handle =>
    simp only [after, nextWalk]
    cases found : handleAt i.walks handle with
    | error _ => exact .inl rfl
    | ok held =>
      obtain ⟨n, w⟩ := held
      obtain ⟨rfl, _⟩ := handleAt_eq_ok.mp found
      cases moved : w.next with
      | error _ => exact .inl (by simp only [moved])
      | ok further => exact .inr (.inr ⟨n, some further, .inl rfl, by simp only [moved]⟩)
  | value _ _ => exact .inl rfl
  | close handle =>
    simp only [after, closeWalk]
    cases found : handleAt i.walks handle with
    | error _ => exact .inl rfl
    | ok held =>
      obtain ⟨n, w⟩ := held
      obtain ⟨rfl, _⟩ := handleAt_eq_ok.mp found
      exact .inr (.inr ⟨n, none, .inr rfl, rfl⟩)

/-- A call changes no walk but that of the handle which it moves on or closes. -/
theorem walks_after_of_other {call : WalkCall} (there : n < i.walks.length)
    (still : call ≠ .next (some n)) (unclosed : call ≠ .close (some n)) :
    (i.after call).walks[n]? = i.walks[n]? := by
  rcases i.walks_after_cases call with same | ⟨w, added⟩ | ⟨k, x, named, put⟩
  · rw [same]
  · rw [added, List.getElem?_append_left there]
  · have other : k ≠ n := by
      rintro rfl
      exact named.elim still unclosed
    rw [put, List.getElem?_set_ne other]

/-- A walk is moved on by its handle. -/
theorem nextWalk_of_next {further : Walk} (held : i.walks[n]? = some (some w))
    (moved : w.next = .ok further) :
    i.nextWalk (some n) = (.ok (), { i with walks := i.walks.set n (some further) }) := by
  simp only [nextWalk, handleAt_eq_ok.mpr ⟨rfl, held⟩, moved]

/-- On its last item a walk is not moved on. -/
theorem nextWalk_of_ended (held : i.walks[n]? = some (some w)) (ended : w.next = .fail .noData) :
    i.nextWalk (some n) = (.error .noData, i) := by
  simp only [nextWalk, handleAt_eq_ok.mpr ⟨rfl, held⟩, ended]
  rfl

/-- After a call the walk of a handle is one further if the call moved it on, and where it was if
not. -/
theorem walks_after {call : WalkCall} (held : i.walks[n]? = some (some w))
    (unclosed : call ≠ .close (some n)) :
    (i.after call).walks[n]? = some (some (w.forward (if call.isNext n then 1 else 0))) := by
  have there := (List.getElem?_eq_some_iff.mp held).1
  by_cases moves : call = .next (some n)
  · subst moves
    have counted : (WalkCall.next (some n)).isNext n = true := beq_self_eq_true _
    rw [if_pos counted]
    rcases w.next_cases with ⟨ended, _⟩ | ⟨further, moved, _⟩
    · rw [Walk.forward_of_ended ended, after, nextWalk_of_ended held ended]
      exact held
    · rw [Walk.forward_succ_of_next moved, after, nextWalk_of_next held moved]
      exact List.getElem?_set_self there
  · have uncounted : ¬ call.isNext n = true := by
      intro counted
      cases call with
      | next handle => exact moves (congrArg _ (beq_iff_eq.mp counted))
      | _ => cases counted
    rw [if_neg uncounted, walks_after_of_other there moves unclosed]
    exact held

/-! ## A run of calls -/

/-- After some calls the walk of a handle that none of them closed is as far on as there were calls
that moved it. -/
theorem walks_run {calls : List WalkCall} (held : i.walks[n]? = some (some w))
    (unclosed : ∀ call ∈ calls, call ≠ .close (some n)) :
    (i.run calls).walks[n]? = some (some (w.forward (calls.countP (·.isNext n)))) := by
  -- the first call leaves a walk of the same tour, which the others move on
  induction calls generalizing i w with
  | nil => exact held
  | cons call calls ih =>
    obtain ⟨first, rest⟩ := List.forall_mem_cons.mp unclosed
    show ((i.after call).run calls).walks[n]? = _
    rw [ih (walks_after held first) rest, Walk.forward_forward, List.countP_cons, Nat.add_comm]

/-- The walk of a handle is a walk that was moved on by a number of items, and what calls by the
handle come to there. -/
structure IsAt (i : Interface) (n : Nat) (w : Walk) (place : Nat) : Prop where
  within : place < w.values.length
  held : i.walks[n]? = some (some (w.forward place))
  /-- The items are those of the walk, and the place is one of theirs. -/
  items : w.SharesItems (w.forward place)
  pos : (w.forward place).pos = w.pos + place
  inside : w.pos + place < w.size
  value : ∃ shown, w.values[place]? = some shown ∧ i.walkValue (some n) true = .ok shown
  /-- On the last item there is no more data, and nothing changes. -/
  last : place + 1 = w.values.length → i.nextWalk (some n) = (.error .noData, i)
  next : place + 1 < w.values.length → ∃ i', i.nextWalk (some n) = (.ok (), i') ∧
    i'.walks[n]? = some (some (w.forward (place + 1)))
  /-- A walk over the level below gets a handle of its own. -/
  opens : ∀ child, (w.forward place).child = .ok child → ∃ i',
    i.openChild (some n) true = (.ok i.walks.length, i') ∧ i'.walks = i.walks ++ [some child]
  refuses : ∀ e, (w.forward place).child = .error e →
    i.openChild (some n) true = (.error e.toStatus, i)

theorem isAt_of_held {place : Nat} (within : place < w.values.length)
    (held : i.walks[n]? = some (some (w.forward place))) : i.IsAt n w place := by
  have found := handleAt_eq_ok.mpr ⟨rfl, held⟩
  constructor
  case within => exact within
  case held => exact held
  case items => exact Walk.sharesItems_forward w place
  case pos => exact Walk.pos_forward within
  case inside =>
    rw [Walk.length_values] at within
    exact Nat.add_lt_of_lt_sub' within
  case value =>
    refine ⟨(w.forward place).value, Walk.value_forward within, ?_⟩
    unfold walkValue
    rw [found]
    rfl
  case last => exact fun last => nextWalk_of_ended held (Walk.next_forward_of_last last)
  case next =>
    intro before
    refine ⟨_, nextWalk_of_next held (Walk.next_forward_of_lt before), ?_⟩
    exact List.getElem?_set_self (List.getElem?_eq_some_iff.mp held).1
  case opens =>
    intro child opened
    refine ⟨{ i with walks := i.walks ++ [some child] }, ?_, rfl⟩
    simp only [openChild, found, opened]
    rfl
  case refuses =>
    intro e refused
    simp only [openChild, found, refused]
    rfl

/-- The walks of an interface do not get into each other's way. -/
structure KeepsWalks (i : Interface) : Prop where
  /-- Whatever calls there were, a walk is as far on as its handle was moved, or at its end. -/
  run : ∀ n w calls, i.walks[n]? = some (some w) → (∀ call ∈ calls, call ≠ .close (some n)) →
    (i.run calls).IsAt n w (min (calls.countP (·.isNext n)) (w.values.length - 1))
  others : ∀ call n, n < i.walks.length → call ≠ .next (some n) → call ≠ .close (some n) →
    (i.after call).walks[n]? = i.walks[n]?

theorem keepsWalks (i : Interface) : i.KeepsWalks where
  run := fun n w calls held unclosed => by
    have more := w.length_values_pos
    refine isAt_of_held (by omega) ?_
    rw [← Walk.forward_eq_forward_min]
    exact walks_run held unclosed
  others := fun _ _ there still unclosed => walks_after_of_other there still unclosed

/-- **Walks are complete and independent.** A walk over a map in order comes to each call, variant
and sensor once, and whatever is done with the handles of an interface, each walk keeps its items
and its place among them. -/
theorem walks_areComplete :
    (∀ m : Capabilities, m.IsOrdered → m.IsToured) ∧ (∀ w : Walk, w.TellsChild) ∧
      ∀ i : Interface, i.KeepsWalks :=
  ⟨fun _ ordered => ordered.isToured, Walk.tellsChild, keepsWalks⟩

/-! ## A map that is walked -/

/-- A map with sensors below a variant, with variants alone, and with neither. -/
def sampleMap : Capabilities :=
  [("rsmi_dev_fan_speed_get", some [(anyVariant, some [1, 2])]), ("rsmi_dev_id_get", none),
    ("rsmi_dev_memory_total_get", some [(0, none), (2, none)])]

theorem isOrdered_sampleMap : sampleMap.IsOrdered where
  calls := by
    unfold Table.Ascending
    decide +kernel
  variants := fun name ids found => by
    have listed := Table.mem_of_get? found
    unfold sampleMap at listed
    unfold Table.Ascending
    simp only [List.mem_cons, Prod.mk.injEq, Option.some_inj, reduceCtorEq, and_false, false_or,
      List.not_mem_nil, or_false] at listed
    rcases listed with ⟨_, rfl⟩ | ⟨_, rfl⟩ <;> decide

/-- A walk on the first call of the map. -/
def sampleWalk : Walk := .calls ⟨sampleMap, 0, by decide⟩

/-- Calls that open a walk below another, move both, and close the second. -/
def sampleCalls : List WalkCall :=
  [.child (some 0) true, .next (some 1), .value (some 0) true, .next (some 0), .close (some 1)]

/-- The first of two walks is on the second call of the map after one move of its own. -/
theorem walks_areComplete_sampleMap :
    sampleMap.IsOrdered ∧ sampleMap.IsToured ∧ Walk.start sampleMap = .ok sampleWalk ∧
      ({ ofUser 0 with walks := [some sampleWalk] }.run sampleCalls).IsAt 0 sampleWalk 1 := by
  obtain ⟨toured, _, kept⟩ := walks_areComplete
  refine ⟨isOrdered_sampleMap, toured _ isOrdered_sampleMap, rfl, ?_⟩
  refine (kept { ofUser 0 with walks := [some sampleWalk] }).run 0 sampleWalk sampleCalls rfl ?_
  simp [sampleCalls]

end Interface

end GpuManagement
