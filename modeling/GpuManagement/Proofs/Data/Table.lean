import GpuManagement.Data.Table

/-!
# Tables are determined by their answers

A table is kept in key order, so two tables that answer alike are the same list. The order of the
keys has to be a strict total one for this: `LawfulKeyOrder` states that, and the key types in use
have it.

`Table.Ascending` is the invariant. Building a table from entries establishes it
(`ascending_ofEntries`), and insertion and removal keep it. Under it an entry is in the list
exactly when `get?` answers it (`mem_iff_get?`), and `Table.ext` is the extensionality that the
invariant is for. `get?_ofEntries_iff` reads a table off entries that name each key once.
-/

namespace GpuManagement

/-- The order of keys is strict and total. -/
class LawfulKeyOrder (κ : Type) [KeyOrder κ] : Prop where
  irrefl : ∀ a : κ, KeyOrder.before a a = false
  trans : ∀ {a b c : κ}, KeyOrder.before a b = true → KeyOrder.before b c = true →
    KeyOrder.before a c = true
  total : ∀ {a b : κ}, a ≠ b → KeyOrder.before a b = false → KeyOrder.before b a = true

namespace Text

theorem before_irrefl (cs : List Char) : before cs cs = false := by
  induction cs with
  | nil => rfl
  | cons c cs ih => rw [before, if_pos rfl, ih]

theorem before_trans : ∀ {as bs cs : List Char}, before as bs = true → before bs cs = true →
    before as cs = true
  | _, [], _, h, _ => by simp only [before, Bool.false_eq_true] at h
  | _, _ :: _, [], _, h => by simp only [before, Bool.false_eq_true] at h
  | [], _ :: _, _ :: _, _, _ => rfl
  | a :: as, b :: bs, c :: cs, hab, hbc => by
    rw [before] at hab hbc ⊢
    by_cases hab' : a = b
    · subst hab'
      by_cases hbc' : a = c
      · rw [if_pos rfl] at hab
        rw [if_pos hbc'] at hbc ⊢
        exact before_trans hab hbc
      · rwa [if_neg hbc'] at hbc ⊢
    · rw [if_neg hab'] at hab
      by_cases hbc' : b = c
      · subst hbc'
        rwa [if_neg hab']
      · rw [if_neg hbc'] at hbc
        have hac : a.toNat < c.toNat :=
          Nat.lt_trans (of_decide_eq_true hab) (of_decide_eq_true hbc)
        rw [if_neg (fun h => Nat.lt_irrefl _ (h ▸ hac))]
        exact decide_eq_true hac

/-- Of two different texts one comes before the other. -/
theorem before_total : ∀ {as bs : List Char}, as ≠ bs → before as bs = false →
    before bs as = true
  | [], [], h, _ => absurd rfl h
  | _ :: _, [], _, _ => rfl
  | [], _ :: _, _, h => by simp only [before, Bool.true_eq_false] at h
  | a :: as, b :: bs, hne, h => by
    rw [before] at h ⊢
    by_cases hab : a = b
    · subst hab
      rw [if_pos rfl] at h ⊢
      exact before_total (fun e => hne (congrArg (a :: ·) e)) h
    · rw [if_neg hab] at h
      rw [if_neg (Ne.symm hab)]
      have hne' : a.toNat ≠ b.toNat := fun e => hab (Char.toNat_inj.mp e)
      have hle := of_decide_eq_false h
      exact decide_eq_true (by omega)

end Text

/-- A key that a number stands for is ordered as the number is. -/
theorem LawfulKeyOrder.ofNumber {κ : Type} [KeyOrder κ] (number : κ → Nat)
    (inj : ∀ {a b : κ}, number a = number b → a = b)
    (h : ∀ a b : κ, KeyOrder.before a b = decide (number a < number b)) : LawfulKeyOrder κ where
  irrefl a := by rw [h]; exact decide_eq_false (Nat.lt_irrefl _)
  trans {a b c} hab hbc := by
    rw [h] at hab hbc ⊢
    exact decide_eq_true (Nat.lt_trans (of_decide_eq_true hab) (of_decide_eq_true hbc))
  total {a b} hne hab := by
    rw [h] at hab ⊢
    have hne' : number a ≠ number b := fun e => hne (inj e)
    have hle := of_decide_eq_false hab
    exact decide_eq_true (by omega)

instance : LawfulKeyOrder Nat := .ofNumber id id fun _ _ => rfl
instance : LawfulKeyOrder UInt32 := .ofNumber UInt32.toNat UInt32.toNat_inj.mp fun _ _ => rfl
instance : LawfulKeyOrder UInt64 := .ofNumber UInt64.toNat UInt64.toNat_inj.mp fun _ _ => rfl

instance : LawfulKeyOrder String where
  irrefl a := Text.before_irrefl a.toList
  trans hab hbc := Text.before_trans hab hbc
  total hne hab := Text.before_total (fun e => hne (String.toList_inj.mp e)) hab

instance {κ μ : Type} [KeyOrder κ] [KeyOrder μ] [DecidableEq κ] [LawfulKeyOrder κ]
    [LawfulKeyOrder μ] : LawfulKeyOrder (κ × μ) where
  irrefl a := by
    show (if a.1 = a.1 then _ else _) = false
    rw [if_pos rfl]
    exact LawfulKeyOrder.irrefl a.2
  trans {a b c} hab hbc := by
    change (if a.1 = b.1 then KeyOrder.before a.2 b.2 else KeyOrder.before a.1 b.1) = true at hab
    change (if b.1 = c.1 then KeyOrder.before b.2 c.2 else KeyOrder.before b.1 c.1) = true at hbc
    show (if a.1 = c.1 then KeyOrder.before a.2 c.2 else KeyOrder.before a.1 c.1) = true
    by_cases h₁ : a.1 = b.1
    · by_cases h₂ : b.1 = c.1
      · rw [if_pos h₁] at hab
        rw [if_pos h₂] at hbc
        rw [if_pos (h₁.trans h₂)]
        exact LawfulKeyOrder.trans hab hbc
      · rw [if_neg h₂] at hbc
        rwa [h₁, if_neg h₂]
    · rw [if_neg h₁] at hab
      by_cases h₂ : b.1 = c.1
      · rwa [← h₂, if_neg h₁]
      · rw [if_neg h₂] at hbc
        have hac := LawfulKeyOrder.trans hab hbc
        rw [if_neg]
        · exact hac
        · intro e
          rw [e, LawfulKeyOrder.irrefl] at hac
          exact Bool.false_ne_true hac
  total {a b} hne hab := by
    change (if a.1 = b.1 then KeyOrder.before a.2 b.2 else KeyOrder.before a.1 b.1) = false at hab
    show (if b.1 = a.1 then KeyOrder.before b.2 a.2 else KeyOrder.before b.1 a.1) = true
    by_cases h₁ : a.1 = b.1
    · rw [if_pos h₁] at hab
      rw [if_pos h₁.symm]
      exact LawfulKeyOrder.total (fun e => hne (Prod.ext h₁ e)) hab
    · rw [if_neg h₁] at hab
      rw [if_neg (Ne.symm h₁)]
      exact LawfulKeyOrder.total h₁ hab

namespace Table

variable {κ ν : Type} [DecidableEq κ]

/-! ## Entries and answers -/

/-- What a table answers is one of its entries. -/
theorem mem_of_get? {t : Table κ ν} {k : κ} {v : ν} (h : t.get? k = some v) : (k, v) ∈ t := by
  induction t with
  | nil => cases h
  | cons entry rest ih =>
    obtain ⟨j, w⟩ := entry
    rw [get?] at h
    by_cases hj : j = k
    · rw [if_pos hj] at h
      cases h
      exact hj ▸ List.mem_cons_self
    · rw [if_neg hj] at h
      exact List.mem_cons_of_mem _ (ih h)

/-- A key has a value exactly when some entry is for it. -/
theorem get?_isSome_iff {t : Table κ ν} {k : κ} : (t.get? k).isSome ↔ k ∈ t.keys := by
  induction t with
  | nil => simp [keys]
  | cons entry rest ih =>
    obtain ⟨j, w⟩ := entry
    by_cases hj : j = k
    · simp [get?, keys, hj]
    · simp only [keys] at ih
      simp [get?, keys, hj, Ne.symm hj, ih]

/-- An entry of a table that names each key once is what the table answers. -/
theorem get?_of_mem {t : Table κ ν} (nodup : t.keys.Nodup) {k : κ} {v : ν} (h : (k, v) ∈ t) :
    t.get? k = some v := by
  induction t with
  | nil => cases h
  | cons entry rest ih =>
    obtain ⟨j, w⟩ := entry
    have hnd := List.nodup_cons.mp nodup
    rw [get?]
    rcases List.mem_cons.mp h with e | h
    · cases e
      rw [if_pos rfl]
    · have hj : j ≠ k := by
        rintro rfl
        exact hnd.1 (List.mem_map.mpr ⟨(j, v), h, rfl⟩)
      rw [if_neg hj]
      exact ih hnd.2 h

/-! ## Keys in order -/

/-- The keys come in strictly ascending order. -/
def Ascending [KeyOrder κ] (t : Table κ ν) : Prop :=
  t.keys.Pairwise fun a b => KeyOrder.before a b = true

omit [DecidableEq κ] in
theorem Ascending.nodup [KeyOrder κ] [LawfulKeyOrder κ] {t : Table κ ν} (h : t.Ascending) :
    t.keys.Nodup := by
  refine List.Pairwise.imp ?_ h
  intro a b hab e
  rw [e, LawfulKeyOrder.irrefl] at hab
  exact Bool.false_ne_true hab

omit [DecidableEq κ] in
theorem Ascending.entries [KeyOrder κ] {t : Table κ ν} (h : t.Ascending) :
    List.Pairwise (fun a b => KeyOrder.before a.1 b.1 = true) t := List.pairwise_map.mp h

/-- In a table in key order the entries are what the table answers. -/
theorem mem_iff_get? [KeyOrder κ] [LawfulKeyOrder κ] {t : Table κ ν} (h : t.Ascending) {k : κ}
    {v : ν} : (k, v) ∈ t ↔ t.get? k = some v :=
  ⟨get?_of_mem h.nodup, mem_of_get?⟩

theorem mem_keys_insert [KeyOrder κ] {t : Table κ ν} {k j : κ} {v : ν} :
    j ∈ (t.insert k v).keys ↔ j = k ∨ j ∈ t.keys := by
  rw [← get?_isSome_iff, ← get?_isSome_iff, get?_insert]
  by_cases h : k = j
  · simp [h]
  · simp [h, Ne.symm h]

theorem Ascending.insert [KeyOrder κ] [LawfulKeyOrder κ] {t : Table κ ν} (h : t.Ascending) (k : κ)
    (v : ν) : (t.insert k v).Ascending := by
  induction t with
  | nil => exact List.pairwise_singleton _ _
  | cons entry rest ih =>
    obtain ⟨j, w⟩ := entry
    have hc := List.pairwise_cons.mp h
    rw [Table.insert]
    by_cases hj : j = k
    · rw [if_pos hj]
      exact List.pairwise_cons.mpr ⟨fun i hi => hj ▸ hc.1 i hi, hc.2⟩
    · rw [if_neg hj]
      by_cases hb : KeyOrder.before k j = true
      · rw [if_pos hb]
        refine List.pairwise_cons.mpr ⟨fun i hi => ?_, h⟩
        rcases List.mem_cons.mp hi with rfl | hi
        · exact hb
        · exact LawfulKeyOrder.trans hb (hc.1 i hi)
      · rw [if_neg hb]
        refine List.pairwise_cons.mpr ⟨fun i hi => ?_, ih hc.2⟩
        rcases mem_keys_insert.mp hi with rfl | hi
        · exact LawfulKeyOrder.total (Ne.symm hj) (Bool.eq_false_iff.mpr hb)
        · exact hc.1 i hi

/-- A table made of entries is in key order. -/
theorem ascending_ofEntries [KeyOrder κ] [LawfulKeyOrder κ] (entries : List (κ × ν)) :
    (ofEntries entries).Ascending := by
  unfold ofEntries
  suffices h : ∀ t : Table κ ν, t.Ascending →
      (entries.foldl (fun t entry => insert t entry.1 entry.2) t).Ascending from
    h [] List.Pairwise.nil
  induction entries with
  | nil => exact fun t h => h
  | cons entry rest ih => exact fun t h => ih _ (h.insert entry.1 entry.2)

/-- **Extensionality**: two tables in key order that answer alike are the same list. -/
theorem ext [KeyOrder κ] [LawfulKeyOrder κ] {t u : Table κ ν} (ht : t.Ascending)
    (hu : u.Ascending) (h : ∀ k, t.get? k = u.get? k) : t = u := by
  induction t generalizing u with
  | nil =>
    cases u with
    | nil => rfl
    | cons entry rest =>
      have := h entry.1
      rw [get?_nil, get?, if_pos rfl] at this
      cases this
  | cons entry rest ih =>
    obtain ⟨j, w⟩ := entry
    cases u with
    | nil =>
      have := h j
      rw [get?_nil, get?, if_pos rfl] at this
      cases this
    | cons entry' rest' =>
      obtain ⟨j', w'⟩ := entry'
      have ht' := List.pairwise_cons.mp ht
      have hu' := List.pairwise_cons.mp hu
      -- the least key of each table has a value in the other, so the two are the same key
      have hjj : j = j' := by
        refine Decidable.byContradiction fun hne => ?_
        have h₁ := h j
        have h₂ := h j'
        rw [get?, if_pos rfl, get?, if_neg (Ne.symm hne)] at h₁
        rw [get?, if_neg hne, get?, if_pos rfl] at h₂
        have b₁ := hu'.1 j (get?_isSome_iff.mp (by rw [← h₁]; rfl))
        have b₂ := ht'.1 j' (get?_isSome_iff.mp (by rw [h₂]; rfl))
        have b := LawfulKeyOrder.trans b₁ b₂
        rw [LawfulKeyOrder.irrefl] at b
        exact Bool.false_ne_true b
      subst hjj
      have hww := h j
      rw [get?, if_pos rfl, get?, if_pos rfl] at hww
      cases hww
      refine congrArg ((j, w) :: ·) (ih ht'.2 hu'.2 fun k => ?_)
      by_cases hk : j = k
      · subst hk
        have gone : ∀ {r : Table κ ν}, (∀ i ∈ r.keys, KeyOrder.before j i = true) →
            r.get? j = none := by
          intro r hr
          cases hg : r.get? j with
          | none => rfl
          | some x =>
            have b := hr j (get?_isSome_iff.mp (by rw [hg]; rfl))
            rw [LawfulKeyOrder.irrefl] at b
            exact absurd b Bool.false_ne_true
        rw [gone ht'.1, gone hu'.1]
      · have := h k
        rwa [get?, if_neg hk, get?, if_neg hk] at this

/-! ## Counting entries -/

theorem length_insert [KeyOrder κ] {t : Table κ ν} {k : κ} (new : t.get? k = none) (v : ν) :
    (t.insert k v).length = t.length + 1 := by
  induction t with
  | nil => rfl
  | cons entry rest ih =>
    obtain ⟨j, w⟩ := entry
    rw [get?] at new
    by_cases hj : j = k
    · rw [if_pos hj] at new
      cases new
    · rw [if_neg hj] at new
      rw [Table.insert, if_neg hj]
      split
      · rfl
      · rw [List.length_cons, ih new, List.length_cons]

theorem keys_erase_sublist (t : Table κ ν) (k : κ) :
    (t.erase k).keys.Sublist t.keys := List.filter_sublist.map Prod.fst

theorem Ascending.erase [KeyOrder κ] {t : Table κ ν} (h : t.Ascending) (k : κ) :
    (t.erase k).Ascending := List.Pairwise.sublist (keys_erase_sublist t k) h

theorem erase_of_get?_eq_none {t : Table κ ν} {k : κ} (new : t.get? k = none) : t.erase k = t := by
  induction t with
  | nil => rfl
  | cons entry rest ih =>
    obtain ⟨j, w⟩ := entry
    rw [get?] at new
    unfold Table.erase at ih ⊢
    by_cases hj : j = k
    · rw [if_pos hj] at new
      cases new
    · rw [if_neg hj] at new
      rw [List.filter_cons_of_pos (by simpa using hj), ih new]

/-- A removal takes what was inserted for a new key, and no more. -/
theorem erase_insert [KeyOrder κ] {t : Table κ ν} {k : κ} (new : t.get? k = none) (v : ν) :
    (t.insert k v).erase k = t := by
  have gone : ∀ rest, Table.erase ((k, v) :: rest) k = Table.erase rest k := by
    intro rest
    simp [Table.erase]
  induction t with
  | nil => exact gone []
  | cons entry rest ih =>
    obtain ⟨j, w⟩ := entry
    by_cases hj : j = k
    · rw [get?, if_pos hj] at new
      cases new
    · rw [Table.insert, if_neg hj]
      split
      · rw [gone, erase_of_get?_eq_none new]
      · rw [get?, if_neg hj] at new
        unfold Table.erase at ih ⊢
        rw [List.filter_cons_of_pos (by simpa using hj), ih new]

/-- A removal takes one entry from a table that names each key once. -/
theorem length_erase {t : Table κ ν} (nodup : t.keys.Nodup) {k : κ} {v : ν}
    (there : t.get? k = some v) : (t.erase k).length + 1 = t.length := by
  induction t with
  | nil => cases there
  | cons entry rest ih =>
    obtain ⟨j, w⟩ := entry
    have distinct := List.nodup_cons.mp nodup
    rw [get?] at there
    unfold Table.erase at ih ⊢
    by_cases hj : j = k
    · subst hj
      have kept : rest.filter (fun entry => entry.1 ≠ j) = rest := by
        refine List.filter_eq_self.mpr fun entry he => decide_eq_true fun e => ?_
        exact distinct.1 (List.mem_map.mpr ⟨entry, he, e⟩)
      rw [List.filter_cons_of_neg (by simp), kept, List.length_cons]
    · rw [if_neg hj] at there
      rw [List.filter_cons_of_pos (by simpa using hj), List.length_cons, ih distinct.2 there,
        List.length_cons]

/-! ## Tables of entries -/

/-- What a table of entries answers is one of these entries. -/
theorem mem_of_get?_ofEntries [KeyOrder κ] {entries : List (κ × ν)} {k : κ} {v : ν}
    (h : (ofEntries entries).get? k = some v) : (k, v) ∈ entries := by
  rw [get?_ofEntries] at h
  obtain ⟨⟨j, w⟩, found, rfl⟩ := Option.map_eq_some_iff.mp h
  have hj : j = k := by simpa using List.find?_some found
  exact hj ▸ List.mem_reverse.mp (List.mem_of_find?_eq_some found)

/-- A key has the value of the entry for it after which there is no other. -/
theorem get?_ofEntries_eq_some_iff [KeyOrder κ] {entries : List (κ × ν)} {k : κ} {v : ν} :
    (ofEntries entries).get? k = some v ↔
      ∃ before after, entries = before ++ (k, v) :: after ∧ ∀ entry ∈ after, entry.1 ≠ k := by
  rw [get?_ofEntries, Option.map_eq_some_iff]
  constructor
  · rintro ⟨⟨j, w⟩, found, rfl⟩
    obtain ⟨hj, after, before, split, others⟩ := List.find?_eq_some_iff_append.mp found
    obtain rfl : j = k := of_decide_eq_true hj
    refine ⟨before.reverse, after.reverse, ?_, fun entry h => ?_⟩
    · rw [List.reverse_eq_iff.mp split]
      simp
    · simpa using others entry (List.mem_reverse.mp h)
  · rintro ⟨before, after, rfl, others⟩
    refine ⟨(k, v), List.find?_eq_some_iff_append.mpr ?_, rfl⟩
    refine ⟨decide_eq_true rfl, after.reverse, before.reverse, by simp, fun entry h => ?_⟩
    simpa using others entry (List.mem_reverse.mp h)

/-- A table of entries has the keys of the entries. -/
theorem mem_keys_ofEntries [KeyOrder κ] {entries : List (κ × ν)} {k : κ} :
    k ∈ (ofEntries entries).keys ↔ ∃ v, (k, v) ∈ entries := by
  rw [← get?_isSome_iff]
  constructor
  · intro h
    obtain ⟨v, hv⟩ := Option.isSome_iff_exists.mp h
    exact ⟨v, mem_of_get?_ofEntries hv⟩
  · rintro ⟨v, hv⟩
    rw [get?_ofEntries, Option.isSome_map, List.find?_isSome]
    exact ⟨(k, v), List.mem_reverse.mpr hv, decide_eq_true rfl⟩

/-- Entries that name each key once are what their table answers. -/
theorem get?_ofEntries_iff [KeyOrder κ] {entries : List (κ × ν)}
    (distinct : (entries.map Prod.fst).Nodup) {k : κ} {v : ν} :
    (ofEntries entries).get? k = some v ↔ (k, v) ∈ entries := by
  refine ⟨mem_of_get?_ofEntries, fun h => ?_⟩
  obtain ⟨w, hw⟩ := Option.isSome_iff_exists.mp
    (get?_isSome_iff.mpr (mem_keys_ofEntries.mpr ⟨v, h⟩))
  have same := get?_of_mem distinct (mem_of_get?_ofEntries hw)
  rw [hw, ← same]
  exact get?_of_mem distinct h

omit [DecidableEq κ] in
/-- Entries that come from a list, at most one from each item and under a key of the item. -/
theorem keys_filterMap_sublist {α : Type} {f : α → Option (κ × ν)} {key : α → κ}
    (named : ∀ x entry, f x = some entry → entry.1 = key x) (xs : List α) :
    ((xs.filterMap f).map Prod.fst).Sublist (xs.map key) := by
  induction xs with
  | nil => exact List.Sublist.refl _
  | cons x xs ih =>
    rw [List.filterMap_cons, List.map_cons]
    cases h : f x with
    | none => exact ih.cons _
    | some entry =>
      rw [List.map_cons, named x entry h]
      exact ih.cons_cons _

/-- A table of entries that come from items with keys of their own answers with these entries. -/
theorem get?_ofEntries_filterMap_iff [KeyOrder κ] {α : Type} {f : α → Option (κ × ν)} {key : α → κ}
    (named : ∀ x entry, f x = some entry → entry.1 = key x) {xs : List α}
    (distinct : (xs.map key).Nodup) {k : κ} {v : ν} :
    (ofEntries (xs.filterMap f)).get? k = some v ↔ ∃ x ∈ xs, f x = some (k, v) := by
  rw [get?_ofEntries_iff ((keys_filterMap_sublist named xs).nodup distinct), List.mem_filterMap]

end Table

end GpuManagement
