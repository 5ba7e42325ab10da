import GpuManagement.Proofs.Session.Levels
import GpuManagement.Proofs.Session.Refusal

/-!
# Settings that are read back

Four settings have a reading of the same thing: the performance level is written and read as a word,
the others are written as decimal numbers, and the speed of a fan is read as a number with a sign.
After each of them the reading tells what was set (`Session.read_of_apply`), wherever the paths of
the card lead: the file that is read is the one that was written last.

Left out are a speed that has no place among the numbers with a sign, and attributes that a directory
stands in for, which are written beside the place that they are read from.
-/

namespace GpuManagement

open Text

/-! ## A file with one word -/

namespace Files

variable {t : Tree} {p : Path} {text : List Char}

/-- A text without blanks is the first word of its file. -/
theorem readWord_of_readText (h : readText t p = .ok text) (nonempty : text ≠ [])
    (unbroken : ∀ c ∈ text, isBlank c = false) : readWord t p = .ok text := by
  have first : firstWord text = text := by
    have between : firstWord ([] ++ text ++ []) = text :=
      firstWord_between rfl nonempty unbroken rfl
    rwa [List.nil_append, List.append_nil] at between
  unfold readWord
  rw [h, Outcome.ok_bind, first]

/-- A file with a number holds what is read from the digits of the number. -/
theorem readWordAs_of_decimal {α : Type} {read : List Char → Option α}
    {problem : List Char → Malformation} {n : Nat} {value : α} (h : readText t p = .ok (decimal n))
    (known : read (decimal n) = some value) : readWordAs read problem t p = .ok value := by
  have word := readWord_of_readText h (decimal_ne_nil n) fun c hc =>
    isBlank_of_isDigit (isDigit_of_mem_decimal hc)
  have nonempty : ¬ (decimal n).isEmpty = true := fun empty =>
    decimal_ne_nil n (List.isEmpty_iff.mp empty)
  unfold readWordAs
  rw [word, Outcome.ok_bind, if_neg nonempty, known]

theorem readDecimal_of_decimal {n : UInt64} (h : readText t p = .ok (decimal n.toNat)) :
    readDecimal t p = .ok n := readWordAs_of_decimal h (readU64?_decimal n)

theorem readSigned_of_decimal {n : Nat} (h : readText t p = .ok (decimal n)) (fits : n < 2 ^ 63) :
    readSigned t p = .ok (n : Int) := readWordAs_of_decimal h (readSigned?_decimal fits)

end Files

/-! ## What is read after a setting -/

/-- The word for a level is a single word. -/
theorem PerfLevel.keyword_unbroken (level : PerfLevel) :
    level.keyword.toList ≠ [] ∧ ∀ c ∈ level.keyword.toList, isBlank c = false := by
  have nonempty : level.keyword.toList ≠ [] := by cases level <;> decide +kernel
  have unbroken : level.keyword.toList.any isBlank = false := by cases level <;> decide +kernel
  exact ⟨nonempty, fun c hc => Bool.eq_false_iff.mpr (List.any_eq_false.mp unbroken c hc)⟩

/-- The reading of what a setting changes, with the value that was set. -/
inductive Setting.ReadsBack : Setting → (r : Reading) → r.Value → Prop where
  | perfLevel (level : PerfLevel) : ReadsBack (.perfLevel level) .perfLevel level
  | overdriveLevel (level : UInt32) : ReadsBack (.overdriveLevel level) .overdriveLevel level
  | powerCap (sensor : UInt32) (cap : UInt64) :
    ReadsBack (.powerCap sensor cap) (.powerCap sensor) cap
  | fanSpeed (fan : UInt32) (speed : UInt64) (fits : speed.toNat < 2 ^ 63) :
    ReadsBack (.fanSpeed fan speed) (.fanSpeed fan) (speed.toNat : Int)

namespace Device

variable {d : Device} {m : Monitor} {t u : Tree}

/-- The text that was written last is in the attribute, where nothing stands in for it. -/
theorem readText_of_attributeWrite {a : Attribute} {text : String}
    (own : d.config.overrideFor a.id = none)
    (run : FileWrite.run t [d.attributeWrite a text] = (.ok (), u)) :
    Files.readText u (d.attributePath a .reading) = .ok text.toList := by
  rw [← attributePath_writing own]
  exact FileWrite.readText_of_run [] run fun _ hw => (by cases hw)

theorem read_perfLevel {level : PerfLevel}
    (text : Files.readText u (d.attributePath .perfLevel .reading) = .ok level.keyword.toList) :
    d.read u .perfLevel = .ok level := by
  obtain ⟨nonempty, unbroken⟩ := level.keyword_unbroken
  have word := Files.readWord_of_readText text nonempty unbroken
  refine Outcome.bind_eq_ok.mpr ⟨level.keyword.toList, word, ?_⟩
  rw [String.ofList_toList, PerfLevel.ofKeyword_keyword]

theorem read_overdriveLevel {level : UInt32}
    (text : Files.readText u (d.attributePath .overDriveLevel .reading) =
      .ok (decimal level.toNat)) :
    d.read u .overdriveLevel = .ok level := by
  have number : d.readNumber u .overDriveLevel = .ok level.toUInt64 :=
    Files.readDecimal_of_decimal text
  have narrow : narrowed 32 level.toUInt64 = .ok level.toNat := if_pos level.toNat_lt
  refine Outcome.bind_eq_ok.mpr ⟨_, number, Outcome.bind_eq_ok.mpr ⟨_, narrow, ?_⟩⟩
  rw [UInt32.ofNat_toNat]

/-- **The writes of a setting leave what its reading tells.** -/
theorem read_of_run {setting : Setting} {r : Reading} {value : r.Value} {ws : List FileWrite}
    (told : setting.ReadsBack r value)
    (own : ∀ a, r.attribute? = some a → d.config.overrideFor a.id = none)
    (written : d.writes t setting = .ok ws) (run : FileWrite.run t ws = (.ok (), u)) :
    d.read u r = .ok value := by
  cases told with
  | perfLevel level =>
    cases written
    exact read_perfLevel (readText_of_attributeWrite (own _ rfl) run)
  | overdriveLevel level =>
    cases written
    have text := readText_of_attributeWrite (own _ rfl) run
    unfold decimalText at text
    rw [String.toList_ofList] at text
    exact read_overdriveLevel text
  | powerCap sensor cap =>
    obtain ⟨m, hm, written⟩ := Outcome.bind_eq_ok.mp written
    obtain ⟨most, _, written⟩ := Outcome.bind_eq_ok.mp written
    obtain ⟨least, _, written⟩ := Outcome.bind_eq_ok.mp written
    split at written
    · cases written
      have text := FileWrite.readText_of_run [] run fun _ hw => (by cases hw)
      unfold decimalText at text
      rw [String.toList_ofList] at text
      exact readSensor_eq_ok_iff.mpr ⟨m, hm, Files.readDecimal_of_decimal text⟩
    · cases written
  | fanSpeed fan speed fits =>
    obtain ⟨m, hm, written⟩ := Outcome.bind_eq_ok.mp written
    obtain ⟨most, _, written⟩ := Outcome.bind_eq_ok.mp written
    split at written
    · cases written
    · cases written
      have text := FileWrite.readText_of_run [⟨m.file .fanControlEnable (sensorIndex fan), "1"⟩]
        run fun _ hw => (by cases hw)
      unfold decimalText at text
      rw [String.toList_ofList] at text
      exact Outcome.bind_eq_ok.mpr ⟨m, hm, Files.readSigned_of_decimal text fits⟩

end Device

namespace Session

variable {s : Session} {t u : Tree} {dv : UInt32} {setting : Setting}

/-- A setting that succeeded found its device free, and did all of its writes. -/
theorem run_of_apply (h : s.apply t dv setting = (.ok (), u)) :
    ∃ d ws, s.device dv = .ok d ∧ s.isBusy dv = false ∧ d.writes t setting = .ok ws ∧
      FileWrite.run t ws = (.ok (), u) := by
  unfold apply at h
  split at h
  · cases h
  · rename_i d admitted
    obtain ⟨_, _, admitted⟩ := Outcome.bind_eq_ok.mp admitted
    obtain ⟨_, _, locked⟩ := Outcome.bind_eq_ok.mp admitted
    obtain ⟨hd, free⟩ := lockedDevice_eq_ok_iff.mp locked
    unfold Device.apply at h
    split at h
    · cases h
    · exact ⟨d, _, hd, free, ‹_›, h⟩

/-- **What was set is read back.** -/
theorem read_of_apply {r : Reading} {value : r.Value} (told : setting.ReadsBack r value)
    (own : ∀ d a, s.device dv = .ok d → r.attribute? = some a →
      d.config.overrideFor a.id = none)
    (done : s.apply t dv setting = (.ok (), u)) : s.read u dv r = .ok value := by
  obtain ⟨d, ws, hd, free, written, run⟩ := run_of_apply done
  have checked : s.checkReading dv r = .ok () := by cases told <;> rfl
  rw [read_of_not_busy checked hd free]
  exact Device.read_of_run told (fun a ha => own d a hd ha) written run

/-! ### A fan with linked files -/

/-- A card with a performance level, and with a fan of which the file for its control leads to that
for its speed. -/
def linkedFan : Tree :=
  Inventory.cardSystem [("power_dpm_force_performance_level", .file (Bytes.ofText "auto\n")),
    ("hwmon", .directory [("hwmon0", .directory [("name", .file (Bytes.ofText "amdgpu\n")),
      ("pwm1", .file (Bytes.ofText "0\n")), ("pwm1_enable", .link "pwm1"),
      ("pwm1_max", .file (Bytes.ofText "255\n"))])])]

/-- The level and the speed of the card are read back, though the control of the fan is written to
the same file as its speed. -/
theorem read_linkedFan :
    ∃ s u v, build linkedFan Inventory.sampleConfig 0 ⟨1⟩ = .ok s ∧
      s.apply linkedFan 0 (.perfLevel .high) = (.ok (), u) ∧
      s.read u 0 .perfLevel = .ok PerfLevel.high ∧
      s.apply linkedFan 0 (.fanSpeed 0 100) = (.ok (), v) ∧
      s.read v 0 (.fanSpeed 0) = .ok (100 : Int) := by
  have seen : (do
      let s ← build linkedFan Inventory.sampleConfig 0 ⟨1⟩
      let d ← s.device 0
      .ok (decide (d.config.overrideFor Attribute.perfLevel.id = none),
        (s.apply linkedFan 0 (.perfLevel .high)).1.toOption,
        (s.apply linkedFan 0 (.fanSpeed 0 100)).1.toOption) :
        Outcome (Bool × Option Unit × Option Unit)).toOption = some (true, some (), some ()) := by
    decide +kernel
  obtain ⟨s, opened, seen⟩ := Outcome.bind_eq_ok.mp (Outcome.toOption_eq_some.mp seen)
  obtain ⟨d, hd, seen⟩ := Outcome.bind_eq_ok.mp seen
  simp only [Except.ok.injEq, Prod.mk.injEq, decide_eq_true_eq] at seen
  obtain ⟨own, level, speed⟩ := seen
  have leveled : s.apply linkedFan 0 (.perfLevel .high) = (.ok (), _) :=
    Prod.ext (Outcome.toOption_eq_some.mp level) rfl
  have sped : s.apply linkedFan 0 (.fanSpeed 0 100) = (.ok (), _) :=
    Prod.ext (Outcome.toOption_eq_some.mp speed) rfl
  refine ⟨s, _, _, opened, leveled, read_of_apply (.perfLevel .high) ?_ leveled, sped,
    read_of_apply (.fanSpeed 0 100 (by decide)) (fun _ _ _ none => (by cases none)) sped⟩
  intro d' a hd' ha
  cases hd.symm.trans hd'
  cases ha
  exact own

end Session

end GpuManagement
