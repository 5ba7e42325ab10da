import GpuManagement.Device.Capability
import GpuManagement.Proofs.Data.Table
import GpuManagement.Proofs.Text.Matcher

/-!
# What a table of requirements means

A requirement is read here as a statement about the files that are present, with sets of indices in
place of lists and no order of evaluation. `Permits` is the intersection over the mandatory sensor
files, `IsSupported` says when a call is in the map, and `CallEntry` what stands there for it.

`derive` finds exactly the map that this describes (`describes_iff_eq_derive`): each step of it is
shown to mean what the description says, and a description leaves no choice, since a list of
sensors is determined by its indices and a table by its answers.
-/

namespace GpuManagement

open Text

/-! ## Indices of a family -/

namespace FileSet

theorem has_iff {s : FileSet} {name : String} : s.has name = true ↔ name ∈ s.names :=
  List.contains_iff_mem

section Library

variable {lib : ExpressionLibrary} {s : FileSet} {pattern : String}

/-- The indices are those of the names that are present. -/
theorem mem_indicesBy {e : lib.Expression}
    (compiled : lib.compile? (lib.source pattern.toList) = some e) {i : UInt32} :
    i ∈ s.indicesBy lib pattern ↔ ∃ name ∈ s.names, lib.indexIn? e name.toList = some i := by
  unfold indicesBy
  rw [compiled, Table.mem_keys_ofEntries]
  simp only [List.mem_filterMap, Option.map_eq_some_iff, Prod.mk.injEq]
  constructor
  · rintro ⟨_, name, present, j, found, rfl, _⟩
    exact ⟨name, present, found⟩
  · rintro ⟨name, present, found⟩
    exact ⟨(), name, present, i, found, rfl, trivial⟩

/-- No index is found by an expression that is refused. -/
theorem indicesBy_of_refused (refused : ¬ lib.Accepts pattern.toList) :
    s.indicesBy lib pattern = [] := by
  unfold indicesBy
  split
  · rfl
  · rename_i e compiled
    exact absurd ⟨e, compiled⟩ refused

variable (lib s pattern) in
/-- Indices come in ascending order. -/
theorem pairwise_indicesBy : (s.indicesBy lib pattern).Pairwise (· < ·) := by
  unfold indicesBy
  split
  · exact .nil
  · refine List.Pairwise.imp ?_ (Table.ascending_ofEntries _)
    intro i j h
    exact of_decide_eq_true (p := i.toNat < j.toNat) h

end Library

/-- The indices of a family come in ascending order. -/
theorem pairwise_indices (s : FileSet) (pattern : String) :
    (s.indices pattern).Pairwise (· < ·) := by
  unfold indices
  exact s.pairwise_indicesBy .builtIn pattern

/-- A file that is present under the name made for an index puts the index into the family. -/
theorem mem_indices_of_atIndex {s : FileSet} {pattern : String} (family : IsFamily pattern.toList)
    {i : UInt32} (present : String.ofList (atIndex pattern.toList i) ∈ s.names) :
    i ∈ s.indices pattern := by
  obtain ⟨e, compiled⟩ := ExpressionLibrary.builtIn_accepts family
  unfold indices
  refine (mem_indicesBy compiled).mpr ⟨_, present, ?_⟩
  rw [String.toList_ofList]
  exact indexIn?_atIndex ExpressionLibrary.builtIn_isStandard family compiled i

end FileSet

/-- Ascending lists of the same indices are the same list. -/
theorem eq_of_ascending_of_mem_iff {is js : List UInt32} (his : is.Pairwise (· < ·))
    (hjs : js.Pairwise (· < ·)) (same : ∀ i, i ∈ is ↔ i ∈ js) : is = js := by
  have distinct : ∀ {ks : List UInt32}, ks.Pairwise (· < ·) → ks.Nodup := by
    intro ks h
    refine h.imp ?_
    intro i j hlt e
    rw [e] at hlt
    exact UInt32.lt_irrefl j hlt
  refine List.Perm.eq_of_pairwise ?_ his hjs
    ((List.perm_ext_iff_of_nodup (distinct his) (distinct hjs)).mpr same)
  intro i j _ _ hij hji
  exact absurd (UInt32.lt_trans hij hji) (UInt32.lt_irrefl _)

/-- An index is kept within a limit when the limit allows it. -/
theorem mem_within {limit : Option (List UInt32)} {found : List UInt32} {i : UInt32} :
    i ∈ within limit found ↔ i ∈ found ∧ ∀ allowed, limit = some allowed → i ∈ allowed := by
  cases limit with
  | none => exact ⟨fun h => ⟨h, fun _ e => (by cases e)⟩, And.left⟩
  | some allowed =>
    show i ∈ found.filter allowed.contains ↔ _
    rw [List.mem_filter, List.contains_iff_mem]
    exact ⟨fun h => ⟨h.1, fun _ e => (by cases e; exact h.2)⟩, fun h => ⟨h.1, h.2 allowed rfl⟩⟩

/-- What is kept within a limit stays in order. -/
theorem pairwise_within {limit : Option (List UInt32)} {found : List UInt32}
    (h : found.Pairwise (· < ·)) : (within limit found).Pairwise (· < ·) := by
  cases limit with
  | none => exact h
  | some allowed => exact h.sublist List.filter_sublist

namespace Requirement

/-! ## What a requirement says -/

/-- Some mandatory file stands for a family, so that the call has sensors. -/
def IsLimited (r : Requirement) : Prop := ∃ file ∈ r.mandatory, isSensorFile file = true

instance (r : Requirement) : Decidable r.IsLimited :=
  inferInstanceAs (Decidable (∃ file ∈ r.mandatory, isSensorFile file = true))

def Permits (r : Requirement) (files : FileSet) (i : UInt32) : Prop :=
  ∀ file ∈ r.mandatory, isSensorFile file = true → i ∈ files.indices file

/-- The file of a variant is there, for a permitted index where it stands for a family. -/
def Offers (r : Requirement) (files : FileSet) (file : String) : Prop :=
  if isSensorFile file then ∃ i ∈ files.indices file, r.Permits files i else file ∈ files.names

/-- The call is supported. -/
structure IsSupported (r : Requirement) (files : FileSet) : Prop where
  present : ∀ file ∈ r.mandatory, isSensorFile file = false → file ∈ files.names
  permits : r.IsLimited → ∃ i, r.Permits files i
  offers : r.variants = [] ∨ ∃ variant ∈ r.variants, r.Offers files variant.2

variable (kindOf : SensorFamily → UInt32 → UInt64)

/-- The sensors are the indices that satisfy `p` in ascending order, each below its kind; a family
without labels has the kind zero. -/
def Lists (r : Requirement) (p : UInt32 → Prop) (sensors : Sensors) : Prop :=
  ∃ indices : List UInt32, indices.Pairwise (· < ·) ∧ (∀ i, i ∈ indices ↔ p i) ∧
    sensors = indices.map fun i =>
      ((if r.family = .unlabelled then 0 else kindOf r.family i) <<< 16) ||| i.toUInt64

/-- The sensors of the mandatory families, and no list where there is no such family. -/
def LimitEntry (r : Requirement) (files : FileSet) : Option Sensors → Prop
  | some sensors => r.IsLimited ∧ r.Lists kindOf (r.Permits files) sensors
  | none => ¬ r.IsLimited

/-- What stands in the map for a variant with a file. -/
def VariantEntry (r : Requirement) (files : FileSet) (file : String) (entry : Option Sensors) :
    Prop :=
  if isSensorFile file then
    ∃ sensors, entry = some sensors ∧
      r.Lists kindOf (fun i => i ∈ files.indices file ∧ r.Permits files i) sensors
  else r.LimitEntry kindOf files entry

/-- What stands in the map for the call. -/
def CallEntry (r : Requirement) (files : FileSet) (entry : Option Variants) : Prop :=
  if r.variants = [] then
    ∃ sensors, r.LimitEntry kindOf files sensors ∧
      entry = sensors.map fun list => [(anyVariant, some list)]
  else
    ∃ variants : Variants, entry = some variants ∧ variants.Ascending ∧
      ∀ id value, variants.get? id = some value ↔
        ∃ file, (id, file) ∈ r.variants ∧ r.Offers files file ∧
          r.VariantEntry kindOf files file value

/-! ## The description leaves no choice -/

variable {kindOf}
variable {r : Requirement} {files : FileSet}

theorem Lists.unique {p : UInt32 → Prop} {s s' : Sensors} (h : r.Lists kindOf p s)
    (h' : r.Lists kindOf p s') : s = s' := by
  obtain ⟨is, his, mem, rfl⟩ := h
  obtain ⟨js, hjs, mem', rfl⟩ := h'
  rw [eq_of_ascending_of_mem_iff his hjs fun i => (mem i).trans (mem' i).symm]

theorem LimitEntry.unique {e e' : Option Sensors} (h : r.LimitEntry kindOf files e)
    (h' : r.LimitEntry kindOf files e') : e = e' := by
  cases e with
  | none =>
    cases e' with
    | none => rfl
    | some _ => exact absurd h'.1 h
  | some s =>
    cases e' with
    | none => exact absurd h.1 h'
    | some s' => rw [h.2.unique h'.2]

theorem VariantEntry.unique {file : String} {e e' : Option Sensors}
    (h : r.VariantEntry kindOf files file e) (h' : r.VariantEntry kindOf files file e') :
    e = e' := by
  unfold VariantEntry at h h'
  split at h
  · obtain ⟨s, rfl, hs⟩ := h
    rename_i sensor
    rw [if_pos sensor] at h'
    obtain ⟨s', rfl, hs'⟩ := h'
    rw [hs.unique hs']
  · rename_i sensor
    rw [if_neg sensor] at h'
    exact h.unique h'

/-- Two entries that fit the description of a call are the same. -/
theorem CallEntry.unique {e e' : Option Variants} (h : r.CallEntry kindOf files e)
    (h' : r.CallEntry kindOf files e') : e = e' := by
  unfold CallEntry at h h'
  split at h
  · obtain ⟨s, hs, rfl⟩ := h
    rename_i empty
    rw [if_pos empty] at h'
    obtain ⟨s', hs', rfl⟩ := h'
    rw [hs.unique hs']
  · obtain ⟨v, rfl, ascending, entries⟩ := h
    rename_i empty
    rw [if_neg empty] at h'
    obtain ⟨v', rfl, ascending', entries'⟩ := h'
    refine congrArg some (Table.ext ascending ascending' fun id => Option.ext fun value => ?_)
    rw [entries, entries']

/-! ## Each step of the evaluation -/

theorem foldl_within (files : FileSet) (fs : List String) (allowed : List UInt32)
    (h : allowed.Pairwise (· < ·)) :
    ∃ indices, fs.foldl (fun limit file => some (within limit (files.indices file)))
        (some allowed) = some indices ∧ indices.Pairwise (· < ·) ∧
      ∀ i, i ∈ indices ↔ i ∈ allowed ∧ ∀ file ∈ fs, i ∈ files.indices file := by
  induction fs generalizing allowed with
  | nil => exact ⟨allowed, rfl, h, fun i => ⟨fun hi => ⟨hi, fun _ hf => (by cases hf)⟩, And.left⟩⟩
  | cons file fs ih =>
    obtain ⟨indices, e, ordered, mem⟩ :=
      ih (within (some allowed) (files.indices file)) (pairwise_within (files.pairwise_indices file))
    refine ⟨indices, e, ordered, fun i => ?_⟩
    rw [mem, mem_within, List.forall_mem_cons]
    constructor
    · rintro ⟨⟨here, inside⟩, rest⟩
      exact ⟨inside allowed rfl, here, rest⟩
    · rintro ⟨inside, here, rest⟩
      exact ⟨⟨here, fun _ e => (by cases e; exact inside)⟩, rest⟩

/-- There is no limit exactly when no mandatory file stands for a family. -/
theorem limit_eq_none_iff : r.limit files = none ↔ ¬ r.IsLimited := by
  unfold limit
  cases h : r.mandatory.filter isSensorFile with
  | nil =>
    refine ⟨fun _ => ?_, fun _ => rfl⟩
    rintro ⟨file, hm, hs⟩
    have := List.mem_filter.mpr ⟨hm, hs⟩
    rw [h] at this
    cases this
  | cons file fs =>
    obtain ⟨indices, e, _, _⟩ := foldl_within files fs _ (files.pairwise_indices file)
    have hf := List.mem_filter.mp (h ▸ List.mem_cons_self : file ∈ r.mandatory.filter isSensorFile)
    rw [List.foldl_cons]
    refine ⟨fun none => ?_, fun unlimited => absurd ⟨file, hf⟩ unlimited⟩
    exact absurd (e.symm.trans none) (Option.some_ne_none indices)

/-- There is a limit only where some mandatory file stands for a family. -/
theorem isLimited_of_limit {indices : List UInt32} (h : r.limit files = some indices) :
    r.IsLimited := by
  refine Decidable.byContradiction fun unlimited => ?_
  rw [limit_eq_none_iff.mpr unlimited] at h
  cases h

/-- The limit is the list of the permitted indices. -/
theorem limit_eq_some {indices : List UInt32} (h : r.limit files = some indices) :
    indices.Pairwise (· < ·) ∧ ∀ i, i ∈ indices ↔ r.Permits files i := by
  unfold limit at h
  have all : ∀ i, r.Permits files i ↔
      ∀ file ∈ r.mandatory.filter isSensorFile, i ∈ files.indices file := by
    intro i
    simp only [Permits, List.mem_filter, and_imp]
  cases hfs : r.mandatory.filter isSensorFile with
  | nil => rw [hfs] at h; cases h
  | cons file fs =>
    obtain ⟨found, e, ordered, mem⟩ := foldl_within files fs _ (files.pairwise_indices file)
    rw [hfs, List.foldl_cons] at h
    have same : found = indices := Option.some.inj (e.symm.trans h)
    subst same
    refine ⟨ordered, fun i => ?_⟩
    rw [mem, all, hfs, List.forall_mem_cons]

/-- An index of a family is kept within the limit when the mandatory families have it. -/
theorem mem_within_limit {found : List UInt32} {i : UInt32} :
    i ∈ within (r.limit files) found ↔ i ∈ found ∧ r.Permits files i := by
  rw [mem_within]
  refine and_congr_right fun _ => ?_
  cases h : r.limit files with
  | none =>
    refine ⟨fun _ file hm hs => absurd ⟨file, hm, hs⟩ (limit_eq_none_iff.mp h), fun _ _ e => ?_⟩
    cases e
  | some indices =>
    have mem := (limit_eq_some h).2 i
    exact ⟨fun inside => mem.mp (inside indices rfl), fun permits _ e => by
      cases e
      exact mem.mpr permits⟩

/-- The list of sensors that is stored for some indices in order. -/
theorem lists_sensors {indices : List UInt32} {p : UInt32 → Prop}
    (ordered : indices.Pairwise (· < ·)) (mem : ∀ i, i ∈ indices ↔ p i) :
    r.Lists kindOf p (r.sensors kindOf indices) := ⟨indices, ordered, mem, rfl⟩

/-- What is stored for the family of a variant. -/
theorem lists_within (r : Requirement) (files : FileSet)
    (kindOf : SensorFamily → UInt32 → UInt64) (file : String) :
    r.Lists kindOf (fun i => i ∈ files.indices file ∧ r.Permits files i)
      (r.sensors kindOf (within (r.limit files) (files.indices file))) :=
  lists_sensors (pairwise_within (files.pairwise_indices file)) fun _ => mem_within_limit

/-- What is stored for the mandatory families. -/
theorem limitEntry_limit :
    r.LimitEntry kindOf files ((r.limit files).map (r.sensors kindOf)) := by
  cases h : r.limit files with
  | none => exact limit_eq_none_iff.mp h
  | some indices =>
    obtain ⟨ordered, mem⟩ := limit_eq_some h
    exact ⟨isLimited_of_limit h, lists_sensors ordered mem⟩

/-- Whatever file a variant has, something is described for it. -/
theorem exists_variantEntry (r : Requirement) (files : FileSet)
    (kindOf : SensorFamily → UInt32 → UInt64) (file : String) :
    ∃ entry, r.VariantEntry kindOf files file entry := by
  unfold VariantEntry
  split
  · exact ⟨_, _, rfl, r.lists_within files kindOf file⟩
  · exact ⟨_, limitEntry_limit⟩

/-- The mandatory files are there: those by themselves, and some index of the families. -/
theorem isMet_iff :
    r.isMet files = true ↔
      (∀ file ∈ r.mandatory, isSensorFile file = false → file ∈ files.names) ∧
        (r.IsLimited → ∃ i, r.Permits files i) := by
  unfold isMet
  rw [Bool.and_eq_true, List.all_eq_true, bne_iff_ne]
  refine and_congr ?_ ?_
  · refine forall_congr' fun file => forall_congr' fun _ => ?_
    rw [Bool.or_eq_true, FileSet.has_iff]
    cases isSensorFile file with
    | true => simp only [true_or, Bool.true_eq_false, false_implies]
    | false => simp only [Bool.false_eq_true, false_or, true_implies]
  · cases h : r.limit files with
    | none =>
      have unlimited := limit_eq_none_iff.mp h
      exact ⟨fun _ limited => absurd limited unlimited, fun _ e => (by cases e)⟩
    | some indices =>
      have limited := isLimited_of_limit h
      have mem := (limit_eq_some h).2
      cases indices with
      | nil =>
        refine ⟨fun ne => absurd rfl ne, fun permits => ?_⟩
        obtain ⟨i, hi⟩ := permits limited
        cases (mem i).mpr hi
      | cons i rest =>
        exact ⟨fun _ _ => ⟨i, (mem i).mp List.mem_cons_self⟩, fun _ e => (by cases e)⟩

/-- A variant is available when its file is offered, and has the entry described. -/
theorem available?_eq_some_iff {variant : UInt64 × String} {id : UInt64}
    {entry : Option Sensors} :
    r.available? files kindOf variant = some (id, entry) ↔
      id = variant.1 ∧ r.Offers files variant.2 ∧ r.VariantEntry kindOf files variant.2 entry := by
  unfold available? Offers VariantEntry
  by_cases sensor : isSensorFile variant.2 = true
  · simp only [if_pos sensor]
    have mem : ∀ i, i ∈ within (r.limit files) (files.indices variant.2) ↔
        i ∈ files.indices variant.2 ∧ r.Permits files i := fun i => mem_within_limit
    have lists := r.lists_within files kindOf variant.2
    cases h : within (r.limit files) (files.indices variant.2) with
    | nil =>
      refine ⟨fun e => (by cases e), ?_⟩
      rintro ⟨_, ⟨i, here, permits⟩, _⟩
      have := (mem i).mpr ⟨here, permits⟩
      rw [h] at this
      cases this
    | cons i rest =>
      rw [h] at lists
      simp only [Option.some.injEq, Prod.mk.injEq]
      constructor
      · rintro ⟨rfl, rfl⟩
        exact ⟨rfl, ⟨i, (mem i).mp (h ▸ List.mem_cons_self)⟩, _, rfl, lists⟩
      · rintro ⟨rfl, _, sensors, rfl, hs⟩
        exact ⟨rfl, congrArg some (lists.unique hs)⟩
  · simp only [if_neg sensor]
    by_cases present : files.has variant.2 = true
    · rw [if_pos present, Option.some.injEq, Prod.mk.injEq]
      constructor
      · rintro ⟨rfl, rfl⟩
        exact ⟨rfl, FileSet.has_iff.mp present, limitEntry_limit⟩
      · rintro ⟨rfl, _, he⟩
        exact ⟨rfl, limitEntry_limit.unique he⟩
    · rw [if_neg present]
      refine ⟨fun e => (by cases e), ?_⟩
      rintro ⟨_, offered, _⟩
      exact absurd (FileSet.has_iff.mpr offered) present

/-- The variants of a call that are available. -/
theorem get?_ofEntries_available_iff (ids : (r.variants.map Prod.fst).Nodup) {id : UInt64}
    {value : Option Sensors} :
    (Table.ofEntries (r.variants.filterMap (r.available? files kindOf))).get? id = some value ↔
      ∃ file, (id, file) ∈ r.variants ∧ r.Offers files file ∧
        r.VariantEntry kindOf files file value := by
  have named : ∀ (variant : UInt64 × String) (entry : UInt64 × Option Sensors),
      r.available? files kindOf variant = some entry → entry.1 = variant.1 :=
    fun _ _ h => (available?_eq_some_iff.mp h).1
  rw [Table.get?_ofEntries_filterMap_iff named ids]
  constructor
  · rintro ⟨⟨id', file⟩, hm, h⟩
    obtain ⟨rfl, offered, he⟩ := available?_eq_some_iff.mp h
    exact ⟨file, hm, offered, he⟩
  · rintro ⟨file, hm, offered, he⟩
    exact ⟨(id, file), hm, available?_eq_some_iff.mpr ⟨rfl, offered, he⟩⟩

/-- A variant is among the available ones exactly when its file is offered. -/
theorem available_ne_nil_iff (r : Requirement) (files : FileSet)
    (kindOf : SensorFamily → UInt32 → UInt64) :
    r.variants.filterMap (r.available? files kindOf) ≠ [] ↔
      ∃ variant ∈ r.variants, r.Offers files variant.2 := by
  constructor
  · intro nonempty
    obtain ⟨⟨id, entry⟩, rest, e⟩ := List.exists_cons_of_ne_nil nonempty
    obtain ⟨variant, hm, h⟩ := List.mem_filterMap.mp (e ▸ List.mem_cons_self)
    exact ⟨variant, hm, (available?_eq_some_iff.mp h).2.1⟩
  · rintro ⟨variant, hm, offered⟩ empty
    obtain ⟨value, hv⟩ := r.exists_variantEntry files kindOf variant.2
    have found := List.mem_filterMap.mpr
      ⟨variant, hm, available?_eq_some_iff.mpr ⟨rfl, offered, hv⟩⟩
    rw [empty] at found
    cases found

/-- Something stands in the map for a call exactly when it is supported. -/
theorem isSome_support?_iff (kindOf : SensorFamily → UInt32 → UInt64) :
    (r.support? files kindOf).isSome = true ↔ r.IsSupported files := by
  unfold support?
  by_cases met : r.isMet files = true
  · obtain ⟨present, permits⟩ := isMet_iff.mp met
    rw [if_neg (by rw [met]; exact Bool.false_ne_true)]
    by_cases empty : r.variants = []
    · rw [if_pos (by rw [empty]; rfl)]
      exact ⟨fun _ => ⟨present, permits, .inl empty⟩, fun _ => rfl⟩
    · rw [if_neg fun h => empty (List.isEmpty_iff.mp h)]
      have offers := r.available_ne_nil_iff files kindOf
      cases available : r.variants.filterMap (r.available? files kindOf) with
      | nil =>
        refine ⟨fun e => (by cases e), fun supported => ?_⟩
        rcases supported.offers with none | some
        · exact absurd none empty
        · exact absurd available (offers.mpr some)
      | cons first rest =>
        rw [available] at offers
        exact ⟨fun _ => ⟨present, permits, .inr (offers.mp (List.cons_ne_nil _ _))⟩, fun _ => rfl⟩
  · rw [if_pos (by rw [Bool.eq_false_iff.mpr met]; rfl)]
    refine ⟨fun e => (by cases e), fun supported => ?_⟩
    exact absurd (isMet_iff.mpr ⟨supported.present, supported.permits⟩) met

/-- A call is in the map when it is supported, with the entry described. -/
theorem support?_eq_some_iff (ids : (r.variants.map Prod.fst).Nodup) {entry : Option Variants} :
    r.support? files kindOf = some entry ↔
      r.IsSupported files ∧ r.CallEntry kindOf files entry := by
  have described : ∀ found, r.support? files kindOf = some found →
      r.CallEntry kindOf files found := by
    intro found h
    unfold support? at h
    split at h
    · cases h
    · unfold CallEntry
      by_cases empty : r.variants = []
      · rw [if_pos (by rw [empty]; rfl), Option.some.injEq] at h
        rw [if_pos empty]
        refine ⟨_, limitEntry_limit, ?_⟩
        rw [← h, Option.map_map]
        rfl
      · rw [if_neg fun h => empty (List.isEmpty_iff.mp h)] at h
        rw [if_neg empty]
        split at h
        · cases h
        · cases h
          exact ⟨_, rfl, Table.ascending_ofEntries _, fun id value =>
            get?_ofEntries_available_iff ids⟩
  constructor
  · intro h
    exact ⟨(isSome_support?_iff kindOf).mp (by rw [h]; rfl), described entry h⟩
  · rintro ⟨supported, he⟩
    obtain ⟨found, h⟩ := Option.isSome_iff_exists.mp
      ((isSome_support?_iff kindOf).mpr supported)
    rw [h, (described found h).unique he]

/-! ## Calls that are supported -/

/-- A call that needs files by themselves, and one of several for its variants. -/
theorem isSupported_of_present (plain : ∀ file ∈ r.mandatory, isSensorFile file = false)
    (present : ∀ file ∈ r.mandatory, file ∈ files.names)
    (offers : r.variants = [] ∨ ∃ variant ∈ r.variants, r.Offers files variant.2) :
    r.IsSupported files where
  present := fun file hm _ => present file hm
  permits := fun ⟨file, hm, sensor⟩ => by
    rw [plain file hm] at sensor
    cases sensor
  offers := offers

/-- A call whose sensor with an index has all files. -/
theorem isSupported_of_index (i : UInt32) (sensor : ∀ file ∈ r.mandatory, isSensorFile file = true)
    (indexed : ∀ file ∈ r.mandatory, i ∈ files.indices file)
    (offers : r.variants = [] ∨ ∃ variant ∈ r.variants,
      isSensorFile variant.2 = true ∧ i ∈ files.indices variant.2) :
    r.IsSupported files := by
  have permits : r.Permits files i := fun file hm _ => indexed file hm
  refine ⟨fun file hm plain => ?_, fun _ => ⟨i, permits⟩, ?_⟩
  · rw [sensor file hm] at plain
    cases plain
  · rcases offers with empty | ⟨variant, hm, hs, hi⟩
    · exact .inl empty
    · refine .inr ⟨variant, hm, ?_⟩
      unfold Offers
      rw [if_pos hs]
      exact ⟨i, hi, permits⟩

end Requirement

/-! ## The whole table -/

namespace Capabilities

/-- The map is what the table says about the files: it has an entry for each supported call and for
no other, the one that is described for the call. -/
structure Describes (table : List Requirement) (files : FileSet)
    (kindOf : SensorFamily → UInt32 → UInt64) (m : Capabilities) : Prop where
  ascending : m.Ascending
  entries : ∀ name entry, m.get? name = some entry ↔
    ∃ r ∈ table, r.call = name ∧ r.IsSupported files ∧ r.CallEntry kindOf files entry

variable {table : List Requirement} {files : FileSet} {kindOf : SensorFamily → UInt32 → UInt64}

/-- A table has one map that it describes. -/
theorem Describes.unique {m m' : Capabilities} (h : Describes table files kindOf m)
    (h' : Describes table files kindOf m') : m = m' := by
  refine Table.ext h.ascending h'.ascending fun name => Option.ext fun entry => ?_
  rw [h.entries, h'.entries]

/-- A call is in the derived map exactly when a row of the table for it is supported. -/
theorem isSome_get?_derive_iff {name : String} :
    ((derive table files kindOf).get? name).isSome = true ↔
      ∃ r ∈ table, r.call = name ∧ r.IsSupported files := by
  unfold derive
  rw [Table.get?_isSome_iff, Table.mem_keys_ofEntries]
  simp only [List.mem_filterMap, Option.map_eq_some_iff, Prod.mk.injEq,
    ← Requirement.isSome_support?_iff kindOf, Option.isSome_iff_exists]
  constructor
  · rintro ⟨_, r, hr, entry, he, rfl, rfl⟩
    exact ⟨r, hr, rfl, entry, he⟩
  · rintro ⟨r, hr, rfl, entry, he⟩
    exact ⟨entry, r, hr, entry, he, rfl, rfl⟩

/-- Two maps together answer as the first does, and as the second where the first has nothing. -/
theorem get?_merge {first second : Capabilities} {name : String} :
    (first.merge second).get? name = (first.get? name).or (second.get? name) := by
  unfold merge
  induction second generalizing first with
  | nil => exact (Option.or_none).symm
  | cons entry rest ih =>
    obtain ⟨call, value⟩ := entry
    rw [List.foldl_cons, ih, Table.get?]
    cases there : first.get? call with
    | some found =>
      rw [if_pos (show first.has call = true by rw [Table.has, there]; rfl)]
      by_cases same : call = name
      · rw [← same, there, Option.some_or, Option.some_or]
      · rw [if_neg same]
    | none =>
      rw [if_neg (show ¬ first.has call = true by rw [Table.has, there]; exact Bool.false_ne_true),
        Table.get?_insert]
      by_cases same : call = name
      · rw [if_pos same, if_pos same, ← same, there, Option.some_or, Option.none_or]
      · rw [if_neg same, if_neg same]

/-- Two maps together know the calls of both. -/
theorem isSome_get?_merge_iff {first second : Capabilities} {name : String} :
    ((first.merge second).get? name).isSome = true ↔
      (first.get? name).isSome = true ∨ (second.get? name).isSome = true := by
  rw [get?_merge, Option.isSome_or, Bool.or_eq_true]

/-- A call is said to be unsupported exactly when the map does not have it. -/
theorem check_notSupported_iff {m : Capabilities} {call : String} {variant sensor : UInt64} :
    (∃ e, m.check call variant sensor = .error e ∧ e.toStatus = .notSupported) ↔
      m.get? call = none := by
  unfold check
  cases m.get? call with
  | none => exact ⟨fun _ => rfl, fun _ => ⟨_, rfl, rfl⟩⟩
  | some entry =>
    refine ⟨?_, fun h => (by cases h)⟩
    rintro ⟨e, h, unsupported⟩
    simp only at h
    split at h
    · cases h
    · cases h
      cases unsupported

/-- The derived map is the one described. -/
theorem derive_describes (calls : (table.map Requirement.call).Nodup)
    (ids : ∀ r ∈ table, (r.variants.map Prod.fst).Nodup) :
    Describes table files kindOf (derive table files kindOf) := by
  refine ⟨Table.ascending_ofEntries _, fun name entry => ?_⟩
  have named : ∀ (r : Requirement) (e : String × Option Variants),
      (r.support? files kindOf).map (fun v => (r.call, v)) = some e → e.1 = r.call := by
    intro r e h
    obtain ⟨_, _, rfl⟩ := Option.map_eq_some_iff.mp h
    rfl
  unfold derive
  rw [Table.get?_ofEntries_filterMap_iff named calls]
  refine exists_congr fun r => and_congr_right fun hr => ?_
  rw [Option.map_eq_some_iff]
  constructor
  · rintro ⟨_, h, e⟩
    cases e
    exact ⟨rfl, (Requirement.support?_eq_some_iff (ids r hr)).mp h⟩
  · rintro ⟨rfl, h⟩
    exact ⟨entry, (Requirement.support?_eq_some_iff (ids r hr)).mpr h, rfl⟩

/-- **A table of requirements means one map, and this is what is derived from it.** -/
theorem describes_iff_eq_derive (table : List Requirement)
    (calls : (table.map Requirement.call).Nodup)
    (ids : ∀ r ∈ table, (r.variants.map Prod.fst).Nodup) (files : FileSet)
    (kindOf : SensorFamily → UInt32 → UInt64) (m : Capabilities) :
    Describes table files kindOf m ↔ m = derive table files kindOf := by
  have derived : Describes table files kindOf (derive table files kindOf) :=
    derive_describes calls ids
  constructor
  · intro h
    exact h.unique derived
  · rintro rfl
    exact derived

/-- A table with all kinds of rows, and the one map for some files: the last call lacks its file,
and the variant 2 of the temperatures lacks its family. -/
theorem describes_mixed_table :
    Describes
      [⟨"rsmi_dev_id_get", ["name"], [], .unlabelled⟩,
        ⟨"rsmi_dev_fan_speed_get", ["pwm#"], [], .unlabelled⟩,
        ⟨"rsmi_dev_temp_metric_get", ["temp#_label"],
          [(0, "temp#_input"), (1, "name"), (2, "temp#_max")], .temperature⟩,
        ⟨"rsmi_dev_usage_get", ["usage"], [], .unlabelled⟩]
      ⟨["name", "pwm1", "pwm3", "temp1_label", "temp2_input", "temp2_label", "temp7_input"]⟩
      (fun _ _ => 5)
      [("rsmi_dev_fan_speed_get", some [(anyVariant, some [1, 3])]),
        ("rsmi_dev_id_get", none),
        ("rsmi_dev_temp_metric_get", some [(0, some [0x50002]), (1, some [0x50001, 0x50002])])] :=
  (describes_iff_eq_derive _ (by decide +kernel) (by decide +kernel) _ _ _).mpr (by decide +kernel)

end Capabilities

end GpuManagement
