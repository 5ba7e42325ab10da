import GpuManagement.Proofs.Session.Confinement
import GpuManagement.Proofs.Text.Numeral
import GpuManagement.Proofs.Text.Split
import Mathlib.Data.Nat.BitIndices

/-!
# Levels that are chosen

Levels of a clock are chosen by a mask, and the driver takes them as a list of numbers. The bits of
the mask that the table has no level for are dropped on the way, and nothing else is: the numbers
written down stand for the mask modulo a power of two, whatever the mask and the length of the table
(`isSelection_of_levelSelection`).

`Session.choosesLevels_apply` puts this between the table that is read and the two files that are
written. What the files hold afterwards follows from a law of any list of writes: the last text
that goes to a file stays there (`FileWrite.readText_of_run`), and files that are there can all be
written (`FileWrite.exists_run_iff`).
-/

namespace GpuManagement

open Text

/-! ## Masks and lists of levels -/

variable {mask : UInt64} {count : Nat}

theorem ascending_selectedLevels (mask : UInt64) (count : Nat) :
    (selectedLevels mask count).Pairwise (· < ·) := List.pairwise_lt_range.filter _

/-- The levels that a mask selects are its bits below the number of levels. -/
theorem selectedLevels_eq (mask : UInt64) (count : Nat) :
    selectedLevels mask count = (mask.toNat % 2 ^ count).bitIndices := by
  refine (ascending_selectedLevels mask count).sortedLT.eq_of_mem_iff Nat.bitIndices_sorted
    fun i => ?_
  rw [mem_selectedLevels, Nat.mem_bitIndices, Nat.testBit_mod_two_pow, Bool.and_eq_true,
    decide_eq_true_eq]

theorem selectedLevels_eq_nil_iff :
    selectedLevels mask count = [] ↔ mask.toNat % 2 ^ count = 0 := by
  rw [selectedLevels_eq]
  constructor
  · intro h
    rw [← Nat.sum_map_two_pow_bitIndices (mask.toNat % 2 ^ count), h]
    rfl
  · intro h
    rw [h, Nat.bitIndices_zero]

/-- Levels are written down unless the mask has none. -/
theorem levelSelection_eq (mask : UInt64) (count : Nat) :
    levelSelection mask count =
      if mask.toNat % 2 ^ count = 0 then .fail .invalidArgs
      else .ok (String.ofList (joinWith [' '] ((selectedLevels mask count).map decimal))) := by
  unfold levelSelection
  split
  · rename_i none_selected
    rw [if_pos (selectedLevels_eq_nil_iff.mp none_selected)]
  · rename_i some_selected
    rw [if_neg fun h => some_selected (selectedLevels_eq_nil_iff.mpr h)]

/-- The mask that a list of levels stands for: the sum of the powers of two of its numbers. -/
def maskOf (text : List Char) : Nat :=
  ((splitWhere (· = ' ') text).map fun number => 2 ^ Nat.ofDigitChars 10 number 0).sum

/-- Numbers that are written down with single spaces between them are read back. -/
theorem maskOf_joinWith {levels : List Nat} (nonempty : levels ≠ []) :
    maskOf (joinWith [' '] (levels.map decimal)) = (levels.map (2 ^ ·)).sum := by
  have plain : ∀ number ∈ levels.map decimal, ∀ c ∈ number, decide (c = ' ') = false := by
    intro number hn c hc
    obtain ⟨n, _, rfl⟩ := List.mem_map.mp hn
    refine decide_eq_false ?_
    rintro rfl
    exact absurd (isDigit_of_mem_decimal hc) (by decide)
  have pieces : splitWhere (· = ' ') (joinWith [' '] (levels.map decimal)) = levels.map decimal :=
    splitWhere_joinWith (decide_eq_true rfl) (fun h => nonempty (List.map_eq_nil_iff.mp h)) plain
  unfold maskOf
  rw [pieces, List.map_map]
  refine congrArg List.sum (List.map_congr_left fun n _ => ?_)
  show 2 ^ Nat.ofDigitChars 10 (decimal n) 0 = 2 ^ n
  rw [decimal, Nat.ofDigitChars_ten_toDigits]

/-- The text lists the levels that a mask selects of so many: their numbers ascend, single spaces
stand between them, and together they stand for the mask as far as there are levels. -/
structure IsSelection (mask : UInt64) (count : Nat) (text : List Char) : Prop where
  listed : ∃ levels : List Nat, text = joinWith [' '] (levels.map decimal) ∧
    levels.Pairwise (· < ·) ∧ ∀ i, i ∈ levels ↔ i < count ∧ mask.toNat.testBit i = true
  sum : maskOf text = mask.toNat % 2 ^ count

/-- **What is written down are the levels of the mask**, unless it has none. -/
theorem isSelection_of_levelSelection {selection : String}
    (h : levelSelection mask count = .ok selection) : IsSelection mask count selection.toList := by
  rw [levelSelection_eq] at h
  split at h
  · cases h
  · rename_i some_bit
    cases h
    refine ⟨⟨_, String.toList_ofList, ascending_selectedLevels mask count,
      fun i => mem_selectedLevels⟩, ?_⟩
    have nonempty : selectedLevels mask count ≠ [] := fun none_selected =>
      some_bit (selectedLevels_eq_nil_iff.mp none_selected)
    rw [String.toList_ofList, maskOf_joinWith nonempty, selectedLevels_eq,
      Nat.sum_map_two_pow_bitIndices]

/-! ## Writes that are all done -/

namespace FileWrite

variable {t u : Tree} {w : FileWrite} {front ws back : List FileWrite}

theorem run_cons_ok_iff :
    run t (w :: ws) = (.ok (), u) ↔
      ∃ v, Files.writeText t w.path w.text = .ok v ∧ run v ws = (.ok (), u) := by
  rw [run]
  cases Files.writeText t w.path w.text with
  | error _ =>
    constructor
    · intro h
      cases h
    · rintro ⟨_, h, _⟩
      cases h
  | ok v =>
    constructor
    · intro h
      exact ⟨v, rfl, h⟩
    · rintro ⟨_, h, rest⟩
      cases h
      exact rest

theorem run_append_ok_iff :
    run t (front ++ ws) = (.ok (), u) ↔
      ∃ v, run t front = (.ok (), v) ∧ run v ws = (.ok (), u) := by
  induction front generalizing t with
  | nil =>
    constructor
    · intro h
      exact ⟨t, rfl, h⟩
    · rintro ⟨_, h, rest⟩
      cases h
      exact rest
  | cons w front ih =>
    rw [List.cons_append, run_cons_ok_iff]
    simp only [ih, run_cons_ok_iff]
    constructor
    · rintro ⟨v, hv, v', hf, hr⟩
      exact ⟨v', ⟨v, hv, hf⟩, hr⟩
    · rintro ⟨v', ⟨v, hv, hf⟩, hr⟩
      exact ⟨v, hv, v', hf, hr⟩

/-- Writes are all done exactly when each of them has a file. -/
theorem exists_run_iff :
    (∃ u, run t ws = (.ok (), u)) ↔ ∀ w ∈ ws, Files.IsReadable t w.path := by
  induction ws generalizing t with
  | nil => exact ⟨fun _ _ hw => (by cases hw), fun _ => ⟨t, rfl⟩⟩
  | cons w ws ih =>
    rw [List.forall_mem_cons, ← Files.exists_writeText_iff w.text]
    constructor
    · rintro ⟨u, h⟩
      obtain ⟨v, hv, hr⟩ := run_cons_ok_iff.mp h
      have same := sameShape_of_writeText hv
      exact ⟨⟨v, hv⟩, fun w' hw' =>
        (ih.mp ⟨u, hr⟩ w' hw').of_sameShape fun location => (same location).symm⟩
    · rintro ⟨⟨v, hv⟩, rest⟩
      have same := sameShape_of_writeText hv
      obtain ⟨u, hr⟩ := ih.mpr fun w' hw' => (rest w' hw').of_sameShape same
      exact ⟨u, run_cons_ok_iff.mpr ⟨v, hv, hr⟩⟩

/-- **What is written to a file stays there** unless a later write goes to the same file. -/
theorem readText_of_run (front : List FileWrite) (h : run t (front ++ w :: back) = (.ok (), u))
    (last : ∀ w' ∈ back, t.resolve .use w'.path ≠ t.resolve .use w.path) :
    Files.readText u w.path = .ok w.text.toList := by
  obtain ⟨v, hf, h⟩ := run_append_ok_iff.mp h
  obtain ⟨v', hw, hb⟩ := run_cons_ok_iff.mp h
  obtain ⟨location, _, hl, _⟩ := Tree.write_eq_ok_iff.mp (writeText_eq_ok_iff.mp hw)
  have sameFront := run_sameShape hf
  have sameWrite := sameShape_of_writeText hw
  have sameBack := run_sameShape hb
  -- no path leads elsewhere on the way, so the later writes miss the location
  have kept : u.fileAt? location = v'.fileAt? location := by
    by_contra changed
    obtain ⟨w', hw', led⟩ := resolve_of_run hb changed
    refine last w' hw' ?_
    rw [← sameFront.resolve_eq, ← sameFront.resolve_eq, hl, ← led, sameWrite.resolve_eq]
  have content : u.content w.path = .ok (Bytes.ofText w.text) := by
    refine Tree.content_eq_ok_iff.mpr ⟨location, ?_, ?_⟩
    · rw [sameBack.resolve_eq, sameWrite.resolve_eq, hl]
    · rw [kept, Tree.fileAt?_write (writeText_eq_ok_iff.mp hw) hl, if_pos rfl]
  refine Outcome.bind_eq_ok.mpr ⟨_, Files.atPath_eq_ok.mpr content, ?_⟩
  rw [Bytes.text?_ofText]

end FileWrite

/-! ## Choosing levels -/

/-- The setting chooses levels of an attribute by a mask. -/
inductive Setting.Chooses : Setting → Attribute → UInt64 → Prop where
  | clock (clock : ClockType) (mask : UInt64) :
    Chooses (.clockLevels clock mask) clock.tableAttribute mask
  | bus (mask : UInt64) : Chooses (.busLevels mask) .pcieClk mask

namespace Device

variable {d : Device} {t : Tree} {setting : Setting} {a : Attribute} {table : FrequencyTable}

/-- The writes of a setting that chooses levels. -/
theorem writes_eq_of_chooses (choice : setting.Chooses a mask)
    (read : d.readTable t a = .ok table) :
    d.writes t setting =
      (levelSelection mask table.count).map fun selection =>
        [d.manualLevels, d.attributeWrite a selection] := by
  have levels : d.writes t setting = d.levelWrites t a mask := by cases choice <;> rfl
  rw [levels, levelWrites, read, Outcome.ok_bind]
  cases levelSelection mask table.count <;> rfl

end Device

namespace Session

variable {s : Session} {t : Tree} {dv : UInt32} {setting : Setting} {a : Attribute}

/-- Levels are chosen as the mask says. If that succeeds, a table was read, and where the two paths
lead to different files the level of the card is manual and the other file lists the levels of the
table that the mask has. Where the device is there and free, its table can be read and both paths
lead to files, it fails exactly when the mask has no level of the table; the argument is invalid
then, and nothing was written. -/
structure ChoosesLevels (s : Session) (t : Tree) (dv : UInt32) (setting : Setting) (a : Attribute)
    (mask : UInt64) : Prop where
  chosen : ∀ u, s.apply t dv setting = (.ok (), u) →
    ∃ d table, s.device dv = .ok d ∧ d.readTable t a = .ok table ∧
      (t.resolve .use (d.attributePath .perfLevel .writing) ≠
          t.resolve .use (d.attributePath a .writing) →
        Files.readText u (d.attributePath .perfLevel .writing) = .ok "manual".toList ∧
        ∃ text, Files.readText u (d.attributePath a .writing) = .ok text ∧
          IsSelection mask table.count text)
  refused : ∀ d table, s.device dv = .ok d → s.isBusy dv = false → d.readTable t a = .ok table →
    Files.IsReadable t (d.attributePath .perfLevel .writing) →
    Files.IsReadable t (d.attributePath a .writing) →
    ((∃ e u, s.apply t dv setting = (.error e, u)) ↔ mask.toNat % 2 ^ table.count = 0) ∧
      ∀ e u, s.apply t dv setting = (.error e, u) → e = .status .invalidArgs ∧ u = t

/-- A setting that chooses levels is carried out on a device that is there and free. -/
theorem apply_of_chooses {d : Device} (root : s.user = 0) (choice : setting.Chooses a mask)
    (hd : s.device dv = .ok d) (free : s.isBusy dv = false) :
    s.apply t dv setting = d.apply t setting := by
  have checked : setting.check = .ok () := by cases choice <;> rfl
  have admitted : (do s.requireRoot; setting.check; s.lockedDevice dv : Outcome Device) = .ok d :=
    Outcome.bind_eq_ok.mpr ⟨(), requireRoot_eq_ok_iff.mpr root, Outcome.bind_eq_ok.mpr
      ⟨(), checked, lockedDevice_eq_ok_iff.mpr ⟨hd, free⟩⟩⟩
  unfold apply
  rw [admitted]

/-- **Levels are chosen as the mask says**, whatever the device, the table and the mask. -/
theorem choosesLevels_apply (root : s.user = 0) (choice : setting.Chooses a mask) :
    s.ChoosesLevels t dv setting a mask := by
  constructor
  · intro u h
    rcases s.apply_cases t dv setting with ⟨e, stopped, _⟩ | ⟨d, _, _, gate, _, _⟩
    · rw [stopped] at h
      cases h
    · have hasLevel : d.HasLevel t a mask := by
        have allows := gate.allows
        cases choice <;> exact allows
      obtain ⟨table, read, _⟩ := hasLevel
      refine ⟨d, table, gate.device, read, fun apart => ?_⟩
      rw [apply_of_chooses root choice gate.device gate.free, Device.apply,
        Device.writes_eq_of_chooses choice read] at h
      cases hs : levelSelection mask table.count with
      | error e =>
        rw [hs] at h
        cases h
      | ok selection =>
        rw [hs] at h
        have first := FileWrite.readText_of_run [] h
          (List.forall_mem_singleton.mpr (Ne.symm apart))
        have second := FileWrite.readText_of_run [d.manualLevels] h (fun _ hw => (by cases hw))
        exact ⟨first, selection.toList, second, isSelection_of_levelSelection hs⟩
  · intro d table hd free read perfFile tableFile
    have writes := d.writes_eq_of_chooses choice read
    rw [levelSelection_eq] at writes
    rw [apply_of_chooses root choice hd free, Device.apply, writes]
    by_cases none_selected : mask.toNat % 2 ^ table.count = 0
    · rw [if_pos none_selected]
      refine ⟨⟨fun _ => none_selected, fun _ => ⟨_, _, rfl⟩⟩, fun e u h => ?_⟩
      cases h
      exact ⟨rfl, rfl⟩
    · rw [if_neg none_selected]
      have files : ∀ selection, ∀ w ∈ [d.manualLevels, d.attributeWrite a selection],
          Files.IsReadable t w.path := fun selection =>
        List.forall_mem_cons.mpr ⟨perfFile, List.forall_mem_singleton.mpr tableFile⟩
      obtain ⟨u, done⟩ := FileWrite.exists_run_iff.mpr (files (String.ofList
        (joinWith [' '] ((selectedLevels mask table.count).map decimal))))
      refine ⟨⟨?_, fun h => absurd h none_selected⟩, ?_⟩
      · rintro ⟨e, v, h⟩
        cases done.symm.trans h
      · intro e v h
        cases done.symm.trans h

/-! ## A card with three levels -/

/-- A system whose card has three levels of a clock to choose from. -/
def withLevels : Tree :=
  Inventory.cardSystem [("power_dpm_force_performance_level", .file (Bytes.ofText "auto\n")),
    ("pp_dpm_sclk", .file (Bytes.ofText "0: 500Mhz\n1: 700Mhz\n2: 1000Mhz *\n"))]

/-- The mask names the first and the last level of the card, and one that it does not have. -/
theorem isSelection_withLevels :
    ∃ s u d, build withLevels Inventory.sampleConfig 0 ⟨1⟩ = .ok s ∧
      s.apply withLevels 0 (.clockLevels .sys 0b1101) = (.ok (), u) ∧ s.device 0 = .ok d ∧
      Files.readText u (d.attributePath .perfLevel .writing) = .ok "manual".toList ∧
      ∃ text, Files.readText u (d.attributePath .gpuSClk .writing) = .ok text ∧
        IsSelection 0b1101 3 text := by
  have seen : (do
      let s ← build withLevels Inventory.sampleConfig 0 ⟨1⟩
      let d ← s.device 0
      let table ← d.readTable withLevels .gpuSClk
      .ok (s.user, table.count, (s.apply withLevels 0 (.clockLevels .sys 0b1101)).1.toOption,
        decide (withLevels.resolve .use (d.attributePath .perfLevel .writing) =
          withLevels.resolve .use (d.attributePath .gpuSClk .writing))) :
        Outcome (UInt32 × Nat × Option Unit × Bool)).toOption = some (0, 3, some (), false) := by
    decide +kernel
  obtain ⟨s, opened, seen⟩ := Outcome.bind_eq_ok.mp (Outcome.toOption_eq_some.mp seen)
  obtain ⟨d, hd, seen⟩ := Outcome.bind_eq_ok.mp seen
  obtain ⟨table, read, seen⟩ := Outcome.bind_eq_ok.mp seen
  simp only [Except.ok.injEq, Prod.mk.injEq, decide_eq_false_iff_not] at seen
  obtain ⟨root, count, done, apart⟩ := seen
  have applied : s.apply withLevels 0 (.clockLevels .sys 0b1101) = (.ok (), _) :=
    Prod.ext (Outcome.toOption_eq_some.mp done) rfl
  obtain ⟨d', table', hd', read', files⟩ :=
    (choosesLevels_apply root (.clock .sys 0b1101)).chosen _ applied
  cases hd.symm.trans hd'
  cases read.symm.trans read'
  obtain ⟨perf, text, written, selection⟩ := files apart
  exact ⟨s, _, d, opened, applied, hd, perf, text, written, count ▸ selection⟩

end Session

end GpuManagement
