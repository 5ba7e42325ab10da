import GpuManagement.Proofs.Device.FileFamily
import GpuManagement.Proofs.Device.Walk
import Mathlib.Data.List.Nodup

/-!
# Which sensor an index asks for

A call without variants is supported for a sensor when the map has one with its index. Two things
stand between that and a file with the index in its name. A family is searched for runs of digits,
so a name with leading zeros is in it too (`FileSet.mem_indices_iff_numbers`). And a stored sensor
has sixteen bits for its index, so that of a greater number only these are left to be compared
(`Sensors.toNat_index_pack`), the others being taken for the kind.

`check_sensor_iff` says what the map of the sensors of a card answers therefore, and that it is the
presence of the files with the index in their names wherever both do not occur.
-/

namespace GpuManagement

open Text

/-! ## The field of the index -/

/-- Of a stored index sixteen bits are left, whatever the kind above them. -/
theorem Sensors.toNat_index_pack (kind : UInt64) (i : UInt32) :
    (Sensors.index (Sensors.pack kind i)).toNat = i.toNat % 0x10000 := by
  have mask : (0xFFFF : UInt64).toNat = 2 ^ 16 - 1 := rfl
  have low : (kind <<< 16).toNat % 2 ^ 16 = 0 := by
    rw [UInt64.toNat_shiftLeft]
    simp only [UInt64.reduceToNat, Nat.reduceMod, Nat.reducePow]
    omega
  unfold Sensors.index Sensors.pack
  rw [UInt64.toNat_and, UInt64.toNat_or, mask, Nat.and_two_pow_sub_one_eq_mod,
    Nat.or_mod_two_pow, low, Nat.zero_or]
  rfl

/-- No index stands for any sensor. -/
theorem toUInt64_ne_anyVariant (n : UInt32) : n.toUInt64 ≠ anyVariant := by
  intro e
  have large : n.toNat = 2 ^ 64 - 1 := by
    rw [← UInt32.toNat_toUInt64, e]
    rfl
  have small := n.toNat_lt
  omega

namespace Requirement

/-- A list of sensors has one with an index when one of them agrees with it in the field. -/
theorem Lists.hasSensor_iff {r : Requirement} {kindOf : SensorFamily → UInt32 → UInt64}
    {p : UInt32 → Prop} {list : Sensors} (lists : r.Lists kindOf p list) (n : UInt32) :
    Capabilities.hasSensor (some list) n.toUInt64 = true ↔
      ∃ i, p i ∧ i.toNat % 0x10000 = n.toNat := by
  obtain ⟨indices, _, mem, rfl⟩ := lists
  have given : (n.toUInt64 == anyVariant) = false :=
    beq_eq_false_iff_ne.mpr (toUInt64_ne_anyVariant n)
  have same : ∀ i kind, Sensors.index (Sensors.pack kind i) = n.toUInt64 ↔
      i.toNat % 0x10000 = n.toNat := by
    intro i kind
    rw [← UInt64.toNat_inj, Sensors.toNat_index_pack, UInt32.toNat_toUInt64]
  unfold Capabilities.hasSensor
  rw [given, Bool.false_or]
  simp only [List.any_map, List.any_eq_true, Function.comp_apply, beq_iff_eq, mem]
  refine exists_congr fun i => and_congr_right fun _ => ?_
  exact same i _

end Requirement

namespace Capabilities

variable {table : List Requirement} {files : FileSet} {kindOf : SensorFamily → UInt32 → UInt64}

/-- The entry of a row in the map of its table is the one that the row describes. -/
theorem get?_derive_iff_of_mem (calls : (table.map Requirement.call).Nodup)
    (ids : ∀ r ∈ table, (r.variants.map Prod.fst).Nodup) {r : Requirement} (row : r ∈ table)
    {entry : Option Variants} :
    (derive table files kindOf).get? r.call = some entry ↔
      r.IsSupported files ∧ r.CallEntry kindOf files entry := by
  rw [(derive_describes calls ids).entries]
  constructor
  · rintro ⟨other, row', call, described⟩
    obtain rfl := List.inj_on_of_nodup_map calls row' row call
    exact described
  · intro described
    exact ⟨r, row, rfl, described⟩

/-- A row is in the map as soon as one sensor has all of its files. -/
theorem isSome_get?_of_permits (kindOf : SensorFamily → UInt32 → UInt64) {r : Requirement}
    (row : r ∈ table) (plain : r.variants = [])
    (families : ∀ file ∈ r.mandatory, isSensorFile file = true) {i : UInt32}
    (permitted : r.Permits files i) :
    ((derive table files kindOf).get? r.call).isSome = true := by
  have present : ∀ file ∈ r.mandatory, i ∈ files.indices file :=
    fun file hm => permitted file hm (families file hm)
  have supported := Requirement.isSupported_of_index i families present (.inl plain)
  exact isSome_get?_derive_iff.mpr ⟨r, row, rfl, supported⟩

/-- A call without variants is supported for an index when some sensor that has all files agrees
with it in the field. -/
theorem check_derive_index_iff (calls : (table.map Requirement.call).Nodup)
    (ids : ∀ r ∈ table, (r.variants.map Prod.fst).Nodup) {r : Requirement} (row : r ∈ table)
    (plain : r.variants = []) (families : ∀ file ∈ r.mandatory, isSensorFile file = true)
    (limited : r.IsLimited) (n : UInt32) :
    (derive table files kindOf).check r.call anyVariant n.toUInt64 = .ok () ↔
      ∃ i, r.Permits files i ∧ i.toNat % 0x10000 = n.toNat := by
  cases found : (derive table files kindOf).get? r.call with
  | none =>
    unfold check
    rw [found]
    constructor
    · intro e
      cases e
    · rintro ⟨i, permitted, _⟩
      have there := isSome_get?_of_permits kindOf row plain families permitted
      rw [found] at there
      cases there
  | some entry =>
    obtain ⟨_, described⟩ := (get?_derive_iff_of_mem calls ids row).mp found
    unfold Requirement.CallEntry at described
    rw [if_pos plain] at described
    obtain ⟨sensors, hs, rfl⟩ := described
    cases sensors with
    | none => exact absurd limited hs
    | some list =>
      have variant : Table.get? [(anyVariant, some list)] anyVariant = some (some list) := if_pos rfl
      rw [check_eq_of_variant found variant, ← hs.2.hasSensor_iff n]
      by_cases here : hasSensor (some list) n.toUInt64 = true
      · simp [here]
      · rw [if_neg here]
        constructor
        · intro e
          cases e
        · intro there
          exact absurd there here

/-! ## The sensors of a card -/

section Monitor

variable {r : Requirement}

/-- Every file that a row of the table of sensors asks for is one of a family. -/
theorem isFamily_of_mem_ofMonitor (row : r ∈ Requirement.ofMonitor) {file : String}
    (hm : file ∈ r.mandatory) : IsFamily file.toList := by
  have all : ∀ r ∈ Requirement.ofMonitor, ∀ file ∈ r.mandatory, IsFamily file.toList := by
    decide +kernel
  exact all r row file hm

theorem exists_mem_mandatory_of_mem_ofMonitor (row : r ∈ Requirement.ofMonitor) :
    ∃ file, file ∈ r.mandatory := by
  have all : ∀ r ∈ Requirement.ofMonitor, r.mandatory ≠ [] := by decide +kernel
  exact List.exists_mem_of_ne_nil _ (all r row)

/-- A row of the table of sensors answers for an index when each family that it asks for has a
number that agrees with it in the field. -/
theorem check_ofMonitor_iff (row : r ∈ Requirement.ofMonitor) (plain : r.variants = []) (n : UInt32) :
    (derive Requirement.ofMonitor files kindOf).check r.call anyVariant n.toUInt64 = .ok () ↔
      ∃ i : UInt32, i.toNat % 0x10000 = n.toNat ∧ ∀ file ∈ r.mandatory, files.Numbers file i := by
  have family : ∀ file ∈ r.mandatory, IsFamily file.toList :=
    fun file hm => isFamily_of_mem_ofMonitor row hm
  have families : ∀ file ∈ r.mandatory, isSensorFile file = true :=
    fun file hm => (family file hm).isIndexed
  have limited : r.IsLimited := by
    obtain ⟨file, hm⟩ := exists_mem_mandatory_of_mem_ofMonitor row
    exact ⟨file, hm, families file hm⟩
  have permits : ∀ i, r.Permits files i ↔ ∀ file ∈ r.mandatory, files.Numbers file i := by
    intro i
    refine forall_congr' fun file => forall_congr' fun hm => ?_
    rw [FileSet.mem_indices_iff_numbers (family file hm)]
    exact ⟨fun h => h (families file hm), fun h _ => h⟩
  rw [check_derive_index_iff (by decide +kernel) (by decide +kernel) row plain families limited n]
  simp only [permits, and_comm]

/-- The files of the families that a row asks for are numbered without leading zeros, and below the
size of the field. -/
def IsPlainlyNumbered (r : Requirement) (files : FileSet) : Prop :=
  ∀ file ∈ r.mandatory, ∀ i, files.Numbers file i → i.toNat < 0x10000 ∧ files.Names file i

/-- Where files are numbered plainly, agreeing in the field is having the index in the name. -/
theorem IsPlainlyNumbered.exists_numbers_iff (numbered : IsPlainlyNumbered r files)
    {file : String} (hm : file ∈ r.mandatory) (n : UInt32) :
    (∃ i : UInt32, i.toNat % 0x10000 = n.toNat ∧ ∀ file ∈ r.mandatory, files.Numbers file i) ↔
      ∀ file ∈ r.mandatory, files.Names file n := by
  constructor
  · intro ⟨i, same, written⟩ file hm
    obtain ⟨small, named⟩ := numbered file hm i (written file hm)
    rw [Nat.mod_eq_of_lt small, UInt32.toNat_inj] at same
    exact same ▸ named
  · intro named
    have small := (numbered file hm n (named file hm).numbers).1
    exact ⟨n, Nat.mod_eq_of_lt small, fun file hm => (named file hm).numbers⟩

/-- Whether files are numbered plainly is seen from the indices that are found. -/
theorem isPlainlyNumbered_of_indices (row : r ∈ Requirement.ofMonitor)
    (found : ∀ file ∈ r.mandatory,
      (files.indices file).all fun i => i.toNat < 0x10000 ∧ files.Names file i) :
    IsPlainlyNumbered r files := by
  intro file hm i written
  have family := isFamily_of_mem_ofMonitor row hm
  have listed : i ∈ files.indices file := (FileSet.mem_indices_iff_numbers family).mpr written
  exact of_decide_eq_true (List.all_eq_true.mp (found file hm) i listed)

/-- **Which sensors of a card are supported**: a row without variants answers for an index when some
number with the same lower sixteen bits is written, with leading zeros or without, by a file of each
family that the row asks for. Where neither greater numbers nor leading zeros occur, this is that
the files with the index in their names are there. -/
theorem check_sensor_iff (row : r ∈ Requirement.ofMonitor) (plain : r.variants = [])
    (files : FileSet) (kindOf : SensorFamily → UInt32 → UInt64) (n : UInt32) :
    ((derive Requirement.ofMonitor files kindOf).check r.call anyVariant n.toUInt64 = .ok () ↔
      ∃ i : UInt32, i.toNat % 0x10000 = n.toNat ∧ ∀ file ∈ r.mandatory, files.Numbers file i) ∧
    (IsPlainlyNumbered r files →
      ((derive Requirement.ofMonitor files kindOf).check r.call anyVariant n.toUInt64 = .ok () ↔
        ∀ file ∈ r.mandatory, files.Names file n)) := by
  refine ⟨check_ofMonitor_iff row plain n, fun numbered => ?_⟩
  obtain ⟨file, hm⟩ := exists_mem_mandatory_of_mem_ofMonitor row
  exact (check_ofMonitor_iff row plain n).trans (numbered.exists_numbers_iff hm n)

/-- Two fans, of which the second has one file only. -/
def twoFans : FileSet := ⟨["pwm1", "pwm1_enable", "pwm1_max", "pwm2"]⟩

/-- The speed of the first fan can be set, that of the second cannot. -/
theorem check_sensor_twoFans :
    (derive Requirement.ofMonitor twoFans fun _ _ => 0).check "rsmi_dev_fan_speed_set" anyVariant
        1 = .ok () ∧
      (derive Requirement.ofMonitor twoFans fun _ _ => 0).check "rsmi_dev_fan_speed_set" anyVariant
        2 ≠ .ok () := by
  have row : .plain "rsmi_dev_fan_speed_set" ["pwm#_max", "pwm#_enable", "pwm#"] ∈
      Requirement.ofMonitor := by decide +kernel
  have numbered : IsPlainlyNumbered
      (.plain "rsmi_dev_fan_speed_set" ["pwm#_max", "pwm#_enable", "pwm#"]) twoFans :=
    isPlainlyNumbered_of_indices row (by decide +kernel)
  constructor
  · exact ((check_sensor_iff row rfl _ _ 1).2 numbered).mpr (by decide +kernel)
  · intro supported
    have named := ((check_sensor_iff row rfl _ _ 2).2 numbered).mp supported
    revert named
    decide +kernel

/-- Three fans, one with a leading zero and one with a number that the field does not hold. -/
def oddFans : FileSet := ⟨["pwm01", "pwm2", "pwm65539"]⟩

/-- The indices 1 and 3 are supported without a file that has them in its name, and 65539 is not
with one. -/
theorem check_sensor_oddFans :
    .plain "rsmi_dev_fan_speed_get" ["pwm#"] ∈ Requirement.ofMonitor ∧
      (derive Requirement.ofMonitor oddFans fun _ _ => 0).check "rsmi_dev_fan_speed_get"
        anyVariant (1 : UInt32).toUInt64 = .ok () ∧ ¬ oddFans.Names "pwm#" 1 ∧
      (derive Requirement.ofMonitor oddFans fun _ _ => 0).check "rsmi_dev_fan_speed_get"
        anyVariant (3 : UInt32).toUInt64 = .ok () ∧ ¬ oddFans.Names "pwm#" 3 ∧
      (derive Requirement.ofMonitor oddFans fun _ _ => 0).check "rsmi_dev_fan_speed_get"
        anyVariant (65539 : UInt32).toUInt64 = .fail .invalidArgs ∧ oddFans.Names "pwm#" 65539 := by
  decide +kernel

end Monitor

end Capabilities

end GpuManagement
