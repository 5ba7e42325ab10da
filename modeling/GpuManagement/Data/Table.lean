import GpuManagement.Text.Split

/-!
# Tables in key order

A table is the list of its entries in ascending key order. `insert` keeps the order and replaces
the value of a key it already has; `get?` finds the value of a key. A key comes once, so a table is
determined by what `get?` answers.
-/

namespace GpuManagement

/-- A strict order on the keys of a table, decided by a function. -/
class KeyOrder (κ : Type) where
  /-- Whether the first key comes before the second. -/
  before : κ → κ → Bool

instance : KeyOrder Nat := ⟨fun a b => decide (a < b)⟩
instance : KeyOrder UInt32 := ⟨fun a b => decide (a.toNat < b.toNat)⟩
instance : KeyOrder UInt64 := ⟨fun a b => decide (a.toNat < b.toNat)⟩
instance : KeyOrder String := ⟨fun a b => Text.before a.toList b.toList⟩

/-- Pairs are ordered by their first parts, and by the second when these are equal. -/
instance {κ μ : Type} [KeyOrder κ] [KeyOrder μ] [DecidableEq κ] : KeyOrder (κ × μ) :=
  ⟨fun a b => if a.1 = b.1 then KeyOrder.before a.2 b.2 else KeyOrder.before a.1 b.1⟩

/-- Entries in ascending key order. -/
abbrev Table (κ ν : Type) := List (κ × ν)

namespace Table

variable {κ ν : Type} [DecidableEq κ]

def get? (t : Table κ ν) (k : κ) : Option ν :=
  match t with
  | [] => none
  | (j, v) :: rest => if j = k then some v else get? rest k

def has (t : Table κ ν) (k : κ) : Bool := (t.get? k).isSome

/-- The table in which `k` has the value `v`, every other key keeping its own. -/
def insert [KeyOrder κ] (t : Table κ ν) (k : κ) (v : ν) : Table κ ν :=
  match t with
  | [] => [(k, v)]
  | (j, w) :: rest =>
    if j = k then (k, v) :: rest
    else if KeyOrder.before k j then (k, v) :: (j, w) :: rest
    else (j, w) :: insert rest k v

def erase (t : Table κ ν) (k : κ) : Table κ ν := t.filter fun entry => entry.1 ≠ k

def keys (t : Table κ ν) : List κ := t.map Prod.fst

/-- The values in the order of their keys. -/
def values (t : Table κ ν) : List ν := t.map Prod.snd

/-- The table of a list of entries; of two entries for one key the later counts. -/
def ofEntries [KeyOrder κ] (entries : List (κ × ν)) : Table κ ν :=
  entries.foldl (fun t entry => insert t entry.1 entry.2) []

@[simp] theorem get?_nil (k : κ) : get? ([] : Table κ ν) k = none := rfl

/-- After an insertion the key has the new value and every other key what it had. -/
theorem get?_insert [KeyOrder κ] (t : Table κ ν) (k j : κ) (v : ν) :
    (t.insert k v).get? j = if k = j then some v else t.get? j := by
  induction t with
  | nil => simp [insert, get?]
  | cons entry rest ih =>
    obtain ⟨i, w⟩ := entry
    by_cases hi : i = k
    · subst hi
      by_cases hj : i = j <;> simp [insert, get?, hj]
    · cases hb : KeyOrder.before k i with
      | true => simp [insert, get?, hi, hb]
      | false =>
        by_cases hj : i = j
        · subst hj
          simp [insert, get?, hi, hb, Ne.symm hi]
        · simp [insert, get?, hi, hb, hj, ih]

/-- After a removal the key has no value and every other key what it had. -/
theorem get?_erase (t : Table κ ν) (k j : κ) :
    (t.erase k).get? j = if k = j then none else t.get? j := by
  induction t with
  | nil => simp [erase]
  | cons entry rest ih =>
    obtain ⟨i, w⟩ := entry
    have step : erase ((i, w) :: rest) k =
        if i = k then erase rest k else (i, w) :: erase rest k := by
      by_cases hi : i = k <;> simp [erase, hi]
    rw [step]
    by_cases hi : i = k
    · subst hi
      by_cases hj : i = j
      · subst hj
        simpa using ih
      · simp [get?, hj, ih]
    · by_cases hj : i = j
      · subst hj
        simp [get?, hi, Ne.symm hi]
      · simp [get?, hi, hj, ih]

/-- The entries of a list are read from the last one backwards. -/
theorem get?_foldl_insert [KeyOrder κ] (entries : List (κ × ν)) (t : Table κ ν) (k : κ) :
    (entries.foldl (fun t entry => insert t entry.1 entry.2) t).get? k =
      ((entries.reverse.find? (·.1 = k)).map Prod.snd).or (t.get? k) := by
  induction entries generalizing t with
  | nil => simp
  | cons entry rest ih =>
    rw [List.foldl_cons, ih, get?_insert, List.reverse_cons, List.find?_append]
    cases rest.reverse.find? (·.1 = k) with
    | some found => simp
    | none =>
      by_cases h : entry.1 = k <;> simp [h]

/-- A key has the value of its last entry. -/
theorem get?_ofEntries [KeyOrder κ] (entries : List (κ × ν)) (k : κ) :
    (ofEntries entries).get? k = (entries.reverse.find? (·.1 = k)).map Prod.snd := by
  simp [ofEntries, get?_foldl_insert]

end Table

end GpuManagement
