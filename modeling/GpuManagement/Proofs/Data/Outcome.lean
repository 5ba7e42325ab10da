import GpuManagement.Error

/-!
# Steps that can fail

A call is a chain of steps, each of which can end it. `Outcome.bind_eq_ok` takes a chain that
succeeded apart into its steps, and the laws of `List.mapM` do so for one step per element. Steps
that are `Outcome.Alike` differ in the words of their failures at most, and so do chains of them.
-/

namespace GpuManagement.Outcome

variable {ε α β : Type}

/-- A step that succeeds hands its value on. -/
theorem ok_bind (a : α) (f : α → Except ε β) : (Except.ok a >>= f) = f a := rfl

/-- A chain succeeds exactly when its first step does and the rest does with its value. -/
theorem bind_eq_ok {x : Except ε α} {f : α → Except ε β} {b : β} :
    (x >>= f) = .ok b ↔ ∃ a, x = .ok a ∧ f a = .ok b := by
  cases x with
  | ok a =>
    constructor
    · intro h
      exact ⟨a, rfl, h⟩
    · rintro ⟨_, ha, h⟩
      cases ha
      exact h
  | error e =>
    constructor
    · intro h
      cases h
    · rintro ⟨_, h, _⟩
      cases h

/-- A chain that ends in a value succeeds when its step does. -/
theorem exists_bind_ok_iff {x : Except ε α} {f : α → β} :
    (∃ b, (x >>= fun a => .ok (f a)) = .ok b) ↔ ∃ a, x = .ok a := by
  constructor
  · rintro ⟨b, h⟩
    obtain ⟨a, ha, _⟩ := bind_eq_ok.mp h
    exact ⟨a, ha⟩
  · rintro ⟨a, rfl⟩
    exact ⟨f a, rfl⟩

/-- A chain fails with its first step, or with what comes after the value of it. -/
theorem bind_eq_error {x : Except ε α} {f : α → Except ε β} {e : ε} :
    (x >>= f) = .error e ↔ x = .error e ∨ ∃ a, x = .ok a ∧ f a = .error e := by
  cases x with
  | ok a =>
    constructor
    · intro h
      exact .inr ⟨a, rfl, h⟩
    · rintro (h | ⟨_, ha, h⟩)
      · cases h
      · cases ha
        exact h
  | error e' =>
    constructor
    · intro h
      cases h
      exact .inl rfl
    · rintro (h | ⟨_, ha, _⟩)
      · cases h
        rfl
      · cases ha

/-- A step whose value is passed on changed succeeds when the step does. -/
theorem map_eq_ok {x : Except ε α} {f : α → β} {b : β} :
    x.map f = .ok b ↔ ∃ a, x = .ok a ∧ f a = b := by
  cases x with
  | ok a =>
    constructor
    · intro h
      cases h
      exact ⟨a, rfl, rfl⟩
    · rintro ⟨_, ha, rfl⟩
      cases ha
      rfl
  | error e =>
    constructor
    · intro h
      cases h
    · rintro ⟨_, h, _⟩
      cases h

theorem toOption_eq_some {x : Except ε α} {a : α} : x.toOption = some a ↔ x = .ok a := by
  cases x with
  | ok b => exact ⟨fun h => (by cases h; rfl), fun h => (by cases h; rfl)⟩
  | error e => exact ⟨fun h => (by cases h), fun h => (by cases h)⟩

/-- What is seen of a value is seen of a step that succeeds. -/
theorem exists_of_toOption_map {x : Except ε α} {f : α → β} {b : β}
    (h : x.toOption.map f = some b) : ∃ a, x = .ok a ∧ f a = b := by
  obtain ⟨a, ha, hf⟩ := Option.map_eq_some_iff.mp h
  exact ⟨a, toOption_eq_some.mp ha, hf⟩

/-- A value that has to be there is there. -/
theorem ofOption_eq_ok {status : Status} {x : Option α} {value : α} :
    ofOption status x = .ok value ↔ x = some value := by
  cases x with
  | none => exact ⟨fun h => (by cases h), fun h => (by cases h)⟩
  | some _ => exact ⟨fun h => (by cases h; rfl), fun h => (by cases h; rfl)⟩

/-- A value that has to be there and is not is told by the status alone. -/
theorem ofOption_eq_error {status : Status} {x : Option α} {e : Error} :
    ofOption status x = .error e ↔ x = none ∧ e = .status status := by
  cases x with
  | none => exact ⟨fun h => (by cases h; exact ⟨rfl, rfl⟩), fun ⟨_, h⟩ => (by cases h; rfl)⟩
  | some _ => exact ⟨fun h => (by cases h), fun ⟨h, _⟩ => (by cases h)⟩

/-- Every result of a list of steps comes from one of them. -/
theorem exists_of_mem_mapM {f : α → Except ε β} {xs : List α} {ys : List β}
    (h : xs.mapM f = .ok ys) : ∀ y ∈ ys, ∃ x ∈ xs, f x = .ok y := by
  induction xs generalizing ys with
  | nil =>
    cases h
    intro y hy
    cases hy
  | cons x xs ih =>
    rw [List.mapM_cons] at h
    obtain ⟨z, hz, h⟩ := bind_eq_ok.mp h
    obtain ⟨zs, hzs, h⟩ := bind_eq_ok.mp h
    cases h
    intro y hy
    rcases List.mem_cons.mp hy with rfl | hy
    · exact ⟨x, List.mem_cons_self, hz⟩
    · obtain ⟨x', hx', hy'⟩ := ih hzs y hy
      exact ⟨x', List.mem_cons_of_mem _ hx', hy'⟩

/-- In a list of steps that succeeded every step has its result. -/
theorem exists_mem_of_mapM {f : α → Except ε β} {xs : List α} {ys : List β}
    (h : xs.mapM f = .ok ys) : ∀ x ∈ xs, ∃ y ∈ ys, f x = .ok y := by
  induction xs generalizing ys with
  | nil =>
    intro x hx
    cases hx
  | cons x xs ih =>
    rw [List.mapM_cons] at h
    obtain ⟨z, hz, h⟩ := bind_eq_ok.mp h
    obtain ⟨zs, hzs, h⟩ := bind_eq_ok.mp h
    cases h
    intro x' hx'
    rcases List.mem_cons.mp hx' with rfl | hx'
    · exact ⟨z, List.mem_cons_self, hz⟩
    · obtain ⟨y, hy, hf⟩ := ih hzs x' hx'
      exact ⟨y, List.mem_cons_of_mem _ hy, hf⟩

/-- The results of a list of steps are related as the elements are. -/
theorem pairwise_of_mapM {R : α → α → Prop} {S : β → β → Prop} {f : α → Except ε β} {xs : List α}
    {ys : List β} (h : xs.mapM f = .ok ys) (related : xs.Pairwise R)
    (carry : ∀ {x x' y y'}, R x x' → f x = .ok y → f x' = .ok y' → S y y') : ys.Pairwise S := by
  induction xs generalizing ys with
  | nil =>
    cases h
    exact List.Pairwise.nil
  | cons x xs ih =>
    obtain ⟨first, rest⟩ := List.pairwise_cons.mp related
    rw [List.mapM_cons] at h
    obtain ⟨z, hz, h⟩ := bind_eq_ok.mp h
    obtain ⟨zs, hzs, h⟩ := bind_eq_ok.mp h
    cases h
    refine List.pairwise_cons.mpr ⟨fun y hy => ?_, ih hzs rest⟩
    obtain ⟨x', hx', hy'⟩ := exists_of_mem_mapM hzs y hy
    exact carry (first x' hx') hz hy'

/-- Steps that give what a function says give its values. -/
theorem eq_map_of_mapM {f : α → Except ε β} {g : α → β} {xs : List α} {ys : List β}
    (h : xs.mapM f = .ok ys) (given : ∀ x y, f x = .ok y → y = g x) : ys = xs.map g := by
  induction xs generalizing ys with
  | nil =>
    cases h
    rfl
  | cons x xs ih =>
    rw [List.mapM_cons] at h
    obtain ⟨z, hz, h⟩ := bind_eq_ok.mp h
    obtain ⟨zs, hzs, h⟩ := bind_eq_ok.mp h
    cases h
    rw [List.map_cons, given x z hz, ih hzs]

/-- Steps for each of some elements succeed when each of them does. -/
theorem exists_mapM_iff {f : α → Except ε β} {xs : List α} :
    (∃ ys, xs.mapM f = .ok ys) ↔ ∀ x ∈ xs, ∃ y, f x = .ok y := by
  induction xs with
  | nil => exact ⟨fun _ _ hx => (by cases hx), fun _ => ⟨[], rfl⟩⟩
  | cons x xs ih =>
    rw [List.forall_mem_cons, ← ih, List.mapM_cons]
    constructor
    · rintro ⟨_, h⟩
      obtain ⟨y, hy, h⟩ := bind_eq_ok.mp h
      obtain ⟨ys, hys, _⟩ := bind_eq_ok.mp h
      exact ⟨⟨y, hy⟩, ys, hys⟩
    · rintro ⟨⟨y, hy⟩, ys, hys⟩
      exact ⟨_, bind_eq_ok.mpr ⟨y, hy, bind_eq_ok.mpr ⟨ys, hys, rfl⟩⟩⟩

/-- Steps for each of some elements have the results of the elements, in order. -/
theorem mapM_eq_ok_iff {f : α → Except ε β} {xs : List α} {ys : List β} :
    xs.mapM f = .ok ys ↔ xs.map f = ys.map .ok := by
  induction xs generalizing ys with
  | nil =>
    rw [List.map_nil, eq_comm, List.nil_eq, List.map_eq_nil_iff]
    exact ⟨fun h => (by cases h; rfl), fun h => (by cases h; rfl)⟩
  | cons x xs ih =>
    rw [List.mapM_cons, List.map_cons]
    constructor
    · intro h
      obtain ⟨y, hy, h⟩ := bind_eq_ok.mp h
      obtain ⟨zs, hzs, h⟩ := bind_eq_ok.mp h
      cases h
      rw [List.map_cons, hy, ih.mp hzs]
    · intro h
      obtain ⟨y, zs, rfl, hy, hzs⟩ := List.map_eq_cons_iff.mp h.symm
      exact bind_eq_ok.mpr ⟨y, hy.symm, bind_eq_ok.mpr ⟨zs, ih.mpr hzs.symm, rfl⟩⟩

/-- Steps for each of some elements fail with the first that fails. -/
theorem mapM_eq_error_iff {f : α → Except ε β} {xs : List α} {e : ε} :
    xs.mapM f = .error e ↔
      ∃ front x back, xs = front ++ x :: back ∧
        (∀ y ∈ front, ∃ b, f y = .ok b) ∧ f x = .error e := by
  induction xs with
  | nil =>
    refine ⟨fun h => (by cases h), ?_⟩
    rintro ⟨front, x, back, h, _⟩
    cases front <;> cases h
  | cons x xs ih =>
    rw [List.mapM_cons, bind_eq_error]
    constructor
    · rintro (h | ⟨y, hy, h⟩)
      · exact ⟨[], x, xs, rfl, fun _ hy => (by cases hy), h⟩
      · rcases bind_eq_error.mp h with h | ⟨_, _, h⟩
        · obtain ⟨front, z, back, rfl, good, bad⟩ := ih.mp h
          exact ⟨x :: front, z, back, rfl, List.forall_mem_cons.mpr ⟨⟨y, hy⟩, good⟩, bad⟩
        · cases h
    · rintro ⟨front, z, back, split, good, bad⟩
      cases front with
      | nil =>
        cases split
        exact .inl bad
      | cons w front =>
        cases split
        obtain ⟨⟨y, hy⟩, good⟩ := List.forall_mem_cons.mp good
        exact .inr ⟨y, hy, bind_eq_error.mpr (.inl (ih.mpr ⟨front, z, back, rfl, good, bad⟩))⟩

/-! ## Steps that come to the same -/

/-- Two steps come to the same value, or both fail. -/
def Alike (x y : Except ε α) : Prop := x.toOption = y.toOption

namespace Alike

theorem refl (x : Except ε α) : Alike x x := rfl

/-- Both come to one value, or both fail. -/
theorem cases {x y : Except ε α} (h : Alike x y) :
    (∃ a, x = .ok a ∧ y = .ok a) ∨ ∃ e e', x = .error e ∧ y = .error e' := by
  unfold Alike at h
  cases x with
  | ok a => exact .inl ⟨a, rfl, toOption_eq_some.mp h.symm⟩
  | error e =>
    cases y with
    | ok b => cases h
    | error e' => exact .inr ⟨e, e', rfl, rfl⟩

theorem ok_iff {x y : Except ε α} (h : Alike x y) {a : α} : x = .ok a ↔ y = .ok a := by
  rw [← toOption_eq_some, ← toOption_eq_some, h]

/-- Chains whose first steps are alike, and whose later steps are for the same value. -/
theorem bind {x y : Except ε α} {f g : α → Except ε β} (h : Alike x y)
    (next : ∀ a, x = .ok a → Alike (f a) (g a)) : Alike (x >>= f) (y >>= g) := by
  rcases h.cases with ⟨a, rfl, rfl⟩ | ⟨e, e', rfl, rfl⟩
  · exact next a rfl
  · rfl

/-- Steps for each of some elements. -/
theorem mapM {f g : α → Except ε β} {xs : List α} (h : ∀ x ∈ xs, Alike (f x) (g x)) :
    Alike (xs.mapM f) (xs.mapM g) := by
  induction xs with
  | nil => rfl
  | cons x xs ih =>
    rw [List.mapM_cons, List.mapM_cons]
    refine (h x List.mem_cons_self).bind fun y _ => ?_
    exact (ih fun x' hx' => h x' (List.mem_cons_of_mem _ hx')).bind fun ys _ => refl _

end Alike

/-! ## Failures by their status -/

/-- The step fails, and its failure has a status. -/
def FailsWith (x : Outcome α) (status : Status) : Prop :=
  ∃ e, x = .error e ∧ e.toStatus = status

namespace FailsWith

variable {x : Outcome α} {status : Status}

/-- A chain fails as its first step does. -/
theorem bind (h : FailsWith x status) (f : α → Outcome β) : FailsWith (x >>= f) status := by
  obtain ⟨e, rfl, he⟩ := h
  exact ⟨e, rfl, he⟩

/-- A chain whose first step succeeds fails as the rest does. -/
theorem ok_bind {a : α} {f : α → Outcome β} (hx : x = .ok a) (h : FailsWith (f a) status) :
    FailsWith (x >>= f) status := by
  rw [hx]
  exact h

theorem ok (a : α) : ¬ FailsWith (.ok a) status := by
  rintro ⟨_, h, _⟩
  cases h

theorem error_iff {e : Error} : FailsWith (.error e : Outcome α) status ↔ e.toStatus = status := by
  constructor
  · rintro ⟨_, h, he⟩
    cases h
    exact he
  · intro he
    exact ⟨e, rfl, he⟩

/-- A step whose value is passed on changed fails as the step does. -/
theorem map_iff {f : α → β} : FailsWith (x.map f) status ↔ FailsWith x status := by
  cases x with
  | ok a => exact ⟨fun h => absurd h (ok (f a)), fun h => absurd h (ok a)⟩
  | error e => exact error_iff.trans error_iff.symm

/-- What fails in a chain is one of its steps. -/
theorem of_bind {f : α → Outcome β} (h : FailsWith (x >>= f) status) :
    FailsWith x status ∨ ∃ a, x = .ok a ∧ FailsWith (f a) status := by
  obtain ⟨e, h, he⟩ := h
  rcases bind_eq_error.mp h with h | ⟨a, ha, h⟩
  · exact .inl ⟨e, h, he⟩
  · exact .inr ⟨a, ha, e, h, he⟩

/-- What fails in steps for each of some elements is the step for one of them. -/
theorem of_mapM {f : α → Outcome β} {xs : List α} (h : FailsWith (xs.mapM f) status) :
    ∃ x ∈ xs, FailsWith (f x) status := by
  induction xs with
  | nil => exact absurd h (ok [])
  | cons x xs ih =>
    rw [List.mapM_cons] at h
    rcases of_bind h with h | ⟨y, _, h⟩
    · exact ⟨x, List.mem_cons_self, h⟩
    · rcases of_bind h with h | ⟨ys, _, h⟩
      · obtain ⟨x', hx', h⟩ := ih h
        exact ⟨x', List.mem_cons_of_mem _ hx', h⟩
      · exact absurd h (ok (y :: ys))

end FailsWith

end GpuManagement.Outcome
