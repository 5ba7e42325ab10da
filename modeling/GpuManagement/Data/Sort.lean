/-!
# Stable sorting

`sortBy` puts each element after all that are less, so elements that compare equal keep the order
they came in. It is a recursion on the list, which the kernel evaluates.
-/

namespace GpuManagement

variable {α : Type}

/-- `x` put after the elements at the front that are less than it. -/
def insertBy (less : α → α → Bool) (x : α) : List α → List α
  | [] => [x]
  | y :: ys => if less y x then y :: insertBy less x ys else x :: y :: ys

/-- The list in ascending order, equal elements in the order they came in. -/
def sortBy (less : α → α → Bool) (xs : List α) : List α :=
  xs.foldr (insertBy less) []

theorem insertBy_perm (less : α → α → Bool) (x : α) (ys : List α) :
    (insertBy less x ys).Perm (x :: ys) := by
  induction ys with
  | nil => exact List.Perm.refl _
  | cons y ys ih =>
    rw [insertBy]
    split
    · exact (List.Perm.cons y ih).trans (List.Perm.swap x y ys)
    · exact List.Perm.refl _

/-- Sorting keeps every element as often as it was there. -/
theorem sortBy_perm (less : α → α → Bool) (xs : List α) : (sortBy less xs).Perm xs := by
  induction xs with
  | nil => exact List.Perm.refl _
  | cons x xs ih =>
    exact (insertBy_perm less x _).trans (List.Perm.cons x ih)

theorem insertBy_pairwise {key : α → Nat} (x : α) (ys : List α)
    (h : ys.Pairwise (key · ≤ key ·)) :
    (insertBy (fun a b => decide (key a < key b)) x ys).Pairwise (key · ≤ key ·) := by
  induction ys with
  | nil => simp [insertBy]
  | cons y ys ih =>
    rw [insertBy]
    have hy := List.pairwise_cons.1 h
    split
    · rename_i hlt
      refine List.pairwise_cons.2 ⟨fun z hz => ?_, ih hy.2⟩
      rcases List.mem_cons.1 ((insertBy_perm _ x ys).mem_iff.1 hz) with rfl | hz
      · exact Nat.le_of_lt (by simpa using hlt)
      · exact hy.1 z hz
    · rename_i hlt
      have hxy : key x ≤ key y := Nat.le_of_not_lt (by simpa using hlt)
      refine List.pairwise_cons.2 ⟨fun z hz => ?_, h⟩
      rcases List.mem_cons.1 hz with rfl | hz
      · exact hxy
      · exact Nat.le_trans hxy (hy.1 z hz)

/-- Sorting by a numeric key gives ascending keys. -/
theorem sortBy_pairwise (key : α → Nat) (xs : List α) :
    (sortBy (fun a b => decide (key a < key b)) xs).Pairwise (key · ≤ key ·) := by
  induction xs with
  | nil => exact List.Pairwise.nil
  | cons x xs ih => exact insertBy_pairwise x _ ih

theorem filter_insertBy {key : α → Nat} {p : α → Bool}
    (same : ∀ a b, p a = true → p b = true → key a = key b) (x : α) (ys : List α) :
    (insertBy (fun a b => decide (key a < key b)) x ys).filter p = (x :: ys).filter p := by
  induction ys with
  | nil => rfl
  | cons y ys ih =>
    rw [insertBy]
    split
    · rename_i less
      have apart : p y = true → p x = true → False := fun hy hx =>
        absurd (same y x hy hx) (Nat.ne_of_lt (of_decide_eq_true less))
      rw [List.filter_cons, ih]
      by_cases hx : p x = true
      · have hy : ¬ p y = true := fun hy => apart hy hx
        rw [if_neg hy, List.filter_cons_of_pos hx, List.filter_cons_of_pos hx,
          List.filter_cons_of_neg hy]
      · rw [List.filter_cons_of_neg hx, List.filter_cons_of_neg hx, List.filter_cons]
    · rfl

/-- Sorting leaves elements that have one key in the order they came in. -/
theorem filter_sortBy (key : α → Nat) {p : α → Bool}
    (same : ∀ a b, p a = true → p b = true → key a = key b) (xs : List α) :
    (sortBy (fun a b => decide (key a < key b)) xs).filter p = xs.filter p := by
  induction xs with
  | nil => rfl
  | cons x xs ih =>
    show (insertBy _ x (sortBy _ xs)).filter p = _
    rw [filter_insertBy same, List.filter_cons, ih, List.filter_cons]

end GpuManagement
