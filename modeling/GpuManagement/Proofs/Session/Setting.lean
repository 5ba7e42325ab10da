import GpuManagement.Proofs.Session.Basic

/-!
# What a failed setting leaves behind

A setting is a list of writes, done in order up to the first failure, and nothing is taken back.
`FileWrite.run_error` says so of any list. A setting of two steps can therefore fail half done, and
`Session.apply_error` says exactly when: the first file was there, and the path of the second leads
to no file. Then the first file holds what was written to it, and nothing else has changed.
-/

namespace GpuManagement

/-! ## Writes in order -/

namespace FileWrite

/-- The file of a write, and the text it puts there. -/
theorem writeText_eq_ok_iff {t u : Tree} {w : FileWrite} :
    Files.writeText t w.path w.text = .ok u ↔ t.write w.path (Bytes.ofText w.text) = .ok u :=
  Files.atPath_eq_ok

/-- One write keeps the shape of the tree. -/
theorem sameShape_of_writeText {t u : Tree} {w : FileWrite}
    (h : Files.writeText t w.path w.text = .ok u) : Tree.SameShape u t :=
  Tree.write_sameShape (writeText_eq_ok_iff.mp h)

/-- A list of writes that failed was done up to the write that failed. -/
theorem run_error {ws : List FileWrite} {t u : Tree} {e : Error} (h : run t ws = (.error e, u)) :
    ∃ done w rest, ws = done ++ w :: rest ∧ run t done = (.ok (), u) ∧
      Files.writeText u w.path w.text = .error e := by
  induction ws generalizing t with
  | nil => cases h
  | cons w ws ih =>
    rw [run] at h
    cases hw : Files.writeText t w.path w.text with
    | error _ =>
      rw [hw] at h
      cases h
      exact ⟨[], w, ws, rfl, rfl, hw⟩
    | ok next =>
      rw [hw] at h
      obtain ⟨done, w', rest, rfl, hdone, hfail⟩ := ih h
      refine ⟨w :: done, w', rest, rfl, ?_, hfail⟩
      rw [run, hw]
      exact hdone

/-- Writes keep the shape of the tree, however far they come. -/
theorem run_sameShape {ws : List FileWrite} {t u : Tree} {o : Outcome Unit}
    (h : run t ws = (o, u)) : Tree.SameShape u t := by
  induction ws generalizing t with
  | nil => cases h; exact fun _ => rfl
  | cons w ws ih =>
    rw [run] at h
    cases hw : Files.writeText t w.path w.text with
    | error _ => rw [hw] at h; cases h; exact fun _ => rfl
    | ok next =>
      rw [hw] at h
      exact fun location => (ih h location).trans (sameShape_of_writeText hw location)

/-- Two writes that failed left the tree alone, or did the first one and found no file for the
second. -/
theorem run_pair_error {first second : FileWrite} {t u : Tree} {e : Error}
    (h : run t [first, second] = (.error e, u)) :
    u = t ∨ Files.writeText t first.path first.text = .ok u ∧ ¬ Files.IsReadable t second.path := by
  obtain ⟨done, w, rest, split, hdone, hfail⟩ := run_error h
  cases done with
  | nil =>
    cases hdone
    exact .inl rfl
  | cons w' done =>
    cases done with
    | cons _ _ => simp at split
    | nil =>
      cases split
      rw [run] at hdone
      cases hw : Files.writeText t first.path first.text with
      | error _ => rw [hw] at hdone; cases hdone
      | ok next =>
        rw [hw] at hdone
        cases hdone
        refine .inr ⟨rfl, fun readable => ?_⟩
        obtain ⟨_, hok⟩ := (Files.exists_writeText_iff second.text).mpr
          (readable.of_sameShape (sameShape_of_writeText hw))
        rw [hok] at hfail
        cases hfail

end FileWrite

/-! ## Settings of two steps -/

namespace Setting

/-- The setting writes two files, the second one after the first. -/
def hasTwoSteps : Setting → Bool
  | clockLevels _ _ | busLevels _ | powerProfile _ | fanSpeed _ _ => true
  | perfLevel _ | overdriveLevel _ | fanReset _ | powerCap _ _ => false

/-- The attribute with the table that a setting chooses levels from. -/
def table? : Setting → Option Attribute
  | clockLevels clock _ => some clock.tableAttribute
  | busLevels _ => some .pcieClk
  | _ => none

end Setting

namespace Device

/-- The first write of a setting of two steps, which lets the card be governed by hand, and the path
of the second. -/
inductive Steps (d : Device) : Setting → FileWrite → Path → Prop where
  | clockLevels (clock : ClockType) (mask : UInt64) :
    Steps d (.clockLevels clock mask) ⟨d.attributePath .perfLevel .writing, "manual"⟩
      (d.attributePath clock.tableAttribute .writing)
  | busLevels (mask : UInt64) :
    Steps d (.busLevels mask) ⟨d.attributePath .perfLevel .writing, "manual"⟩
      (d.attributePath .pcieClk .writing)
  | powerProfile (profile : UInt64) :
    Steps d (.powerProfile profile) ⟨d.attributePath .perfLevel .writing, "manual"⟩
      (d.attributePath .powerProfileMode .writing)
  | fanSpeed (m : Monitor) (present : d.monitor = some m) (fan : UInt32) (speed : UInt64) :
    Steps d (.fanSpeed fan speed) ⟨m.file .fanControlEnable (sensorIndex fan), "1"⟩
      (m.file .fanSpeed (sensorIndex fan))

variable {d : Device} {t : Tree}

/-- An attribute that nothing stands in for is read and written in one place. -/
theorem attributePath_writing {a : Attribute} (h : d.config.overrideFor a.id = none) :
    d.attributePath a .writing = d.attributePath a .reading := by
  unfold attributePath
  rw [h]

/-- Levels are chosen in two writes, after the table was read. -/
theorem levelWrites_eq_ok {a : Attribute} {mask : UInt64} {ws : List FileWrite}
    (h : d.levelWrites t a mask = .ok ws) :
    d.Reads t a ∧ ∃ selection, ws = [d.manualLevels, d.attributeWrite a selection] := by
  obtain ⟨table, ht, h⟩ := Outcome.bind_eq_ok.mp h
  obtain ⟨selection, _, h⟩ := Outcome.bind_eq_ok.mp h
  cases h
  exact ⟨reads_of_readTable ht, selection, rfl⟩

/-- A setting of two steps comes to its two writes, once its table was read. -/
theorem writes_two_steps {setting : Setting} (two : setting.hasTwoSteps = true)
    {ws : List FileWrite} (h : d.writes t setting = .ok ws) :
    ∃ first second, ws = [first, second] ∧ d.Steps setting first second.path ∧
      ∀ a, setting.table? = some a → d.Reads t a ∧ second.path = d.attributePath a .writing := by
  cases setting with
  | clockLevels clock mask =>
    obtain ⟨read, selection, rfl⟩ := levelWrites_eq_ok h
    refine ⟨_, _, rfl, .clockLevels clock mask, fun a ha => ?_⟩
    cases ha
    exact ⟨read, rfl⟩
  | busLevels mask =>
    obtain ⟨read, selection, rfl⟩ := levelWrites_eq_ok h
    refine ⟨_, _, rfl, .busLevels mask, fun a ha => ?_⟩
    cases ha
    exact ⟨read, rfl⟩
  | powerProfile profile =>
    obtain ⟨bit, _, h⟩ := Outcome.bind_eq_ok.mp h
    cases h
    exact ⟨_, _, rfl, .powerProfile profile, fun a ha => (by cases ha)⟩
  | fanSpeed fan speed =>
    obtain ⟨m, hm, h⟩ := Outcome.bind_eq_ok.mp h
    obtain ⟨most, _, h⟩ := Outcome.bind_eq_ok.mp h
    have present := monitor_of_requireMonitor hm
    split at h
    · cases h
    · cases h
      exact ⟨_, _, rfl, .fanSpeed m present fan speed, fun a ha => (by cases ha)⟩
  | perfLevel _ => cases two
  | overdriveLevel _ => cases two
  | fanReset _ => cases two
  | powerCap _ _ => cases two

end Device

namespace Session

/-- The setting was left half done: the first of its two files was written and has the text, the
path of the second leads to no file, and nothing else has changed. Where a table was read, something
stands in for its attribute, or there would be a file to write. -/
structure HalfDone (d : Device) (setting : Setting) (t u : Tree) (first : FileWrite) (second : Path)
    (location : Location) : Prop where
  steps : d.Steps setting first second
  resolves : t.resolve .use first.path = .ok location
  was_file : (t.fileAt? location).isSome = true
  missing : ¬ Files.IsReadable t second
  overridden : ∀ a, setting.table? = some a → d.config.overrideFor a.id ≠ none
  files : ∀ other, u.fileAt? other =
    if other = location then some (Bytes.ofText first.text) else t.fileAt? other

/-- The writes of a setting of two steps that failed in the midst leave it half done. -/
theorem halfDone_of_run {d : Device} {setting : Setting} {t u : Tree} {ws : List FileWrite}
    {e : Error} (two : setting.hasTwoSteps = true) (hw : d.writes t setting = .ok ws)
    (h : FileWrite.run t ws = (.error e, u)) :
    u = t ∨ ∃ first second location, HalfDone d setting t u first second location := by
  obtain ⟨first, second, rfl, steps, table⟩ := d.writes_two_steps two hw
  rcases FileWrite.run_pair_error h with rfl | ⟨written, missing⟩
  · exact .inl rfl
  · have written := FileWrite.writeText_eq_ok_iff.mp written
    obtain ⟨location, old, hl, hg, _⟩ := Tree.write_eq_ok_iff.mp written
    refine .inr ⟨first, second.path, location, steps, hl, ?_, missing, ?_,
      Tree.fileAt?_write written hl⟩
    · rw [Tree.fileAt?_eq_some_iff.mpr hg]
      rfl
    · intro a ha here
      obtain ⟨read, same⟩ := table a ha
      rw [same, Device.attributePath_writing here] at missing
      exact missing read

/-- **A failed setting of two steps** moves nothing and changes no file, unless its first write was
done and the second one has no file. -/
theorem apply_error {s : Session} {t u : Tree} {dv : UInt32} {setting : Setting} {e : Error}
    (two : setting.hasTwoSteps = true) (h : s.apply t dv setting = (.error e, u)) :
    Tree.SameShape u t ∧
      ((∀ location, u.fileAt? location = t.fileAt? location) ∨
        ∃ d first second location, s.device dv = .ok d ∧
          HalfDone d setting t u first second location) := by
  have untouched : u = t → Tree.SameShape u t ∧
      ((∀ location, u.fileAt? location = t.fileAt? location) ∨
        ∃ d first second location, s.device dv = .ok d ∧
          HalfDone d setting t u first second location) := by
    rintro rfl
    exact ⟨fun _ => rfl, .inl fun _ => rfl⟩
  unfold apply at h
  split at h
  · cases h
    exact untouched rfl
  · rename_i d admitted
    obtain ⟨_, _, admitted⟩ := Outcome.bind_eq_ok.mp admitted
    obtain ⟨_, _, locked⟩ := Outcome.bind_eq_ok.mp admitted
    unfold Device.apply at h
    cases hw : d.writes t setting with
    | error _ =>
      rw [hw] at h
      cases h
      exact untouched rfl
    | ok ws =>
      rw [hw] at h
      rcases halfDone_of_run two hw h with same | ⟨first, second, location, half⟩
      · exact untouched same
      · exact ⟨FileWrite.run_sameShape h,
          .inr ⟨d, first, second, location, device_of_lockedDevice locked, half⟩⟩

/-! ## A card without profiles -/

/-- A system whose card has a performance level to set, and no profiles to choose from. -/
def withoutProfiles : Tree :=
  Inventory.cardSystem [("power_dpm_force_performance_level", .file (Bytes.ofText "auto\n"))]

def levelFile : Location := ["drm", "card0", "0000:03:00.0", "power_dpm_force_performance_level"]

/-- Choosing a profile fails after the level was changed. -/
theorem apply_withoutProfiles :
    ∃ s e u, build withoutProfiles Inventory.sampleConfig 0 ⟨1⟩ = .ok s ∧
      s.apply withoutProfiles 0 (.powerProfile 1) = (.error e, u) ∧
      u.fileAt? levelFile ≠ withoutProfiles.fileAt? levelFile := by
  have run : (build withoutProfiles Inventory.sampleConfig 0 ⟨1⟩).toOption.map (fun s =>
      ((s.apply withoutProfiles 0 (.powerProfile 1)).1.toOption,
        (s.apply withoutProfiles 0 (.powerProfile 1)).2.fileAt? levelFile)) =
      some (none, some (Bytes.ofText "manual")) := by decide +kernel
  have before : withoutProfiles.fileAt? levelFile = some (Bytes.ofText "auto\n") := by
    decide +kernel
  cases hs : build withoutProfiles Inventory.sampleConfig 0 ⟨1⟩ with
  | error _ =>
    rw [hs] at run
    cases run
  | ok s =>
    rw [hs] at run
    obtain ⟨failed, after⟩ := Prod.mk.inj (Option.some.inj run)
    cases ha : s.apply withoutProfiles 0 (.powerProfile 1) with
    | mk o u =>
      rw [ha] at failed after
      cases o with
      | ok _ => cases failed
      | error e =>
        refine ⟨s, e, u, rfl, ha, ?_⟩
        rw [after, before]
        decide

/-- A failed setting of two steps does not always leave every file as it was. -/
theorem apply_error_changes_files :
    ¬ ∀ (t₀ t u : Tree) (config : Config) (user : UInt32) (flags : InitFlags) (s : Session)
        (dv : UInt32) (setting : Setting) (e : Error),
        build t₀ config user flags = .ok s → setting.hasTwoSteps = true →
        s.apply t dv setting = (.error e, u) →
        ∀ location, u.fileAt? location = t.fileAt? location := by
  intro all
  obtain ⟨s, e, u, opened, failed, changed⟩ := apply_withoutProfiles
  exact changed (all _ _ _ _ _ _ _ _ _ _ opened rfl failed levelFile)

/-- The card without profiles is left with the level changed. -/
theorem halfDone_withoutProfiles :
    ∃ s e u d first second location, build withoutProfiles Inventory.sampleConfig 0 ⟨1⟩ = .ok s ∧
      s.apply withoutProfiles 0 (.powerProfile 1) = (.error e, u) ∧ s.device 0 = .ok d ∧
      HalfDone d (.powerProfile 1) withoutProfiles u first second location := by
  obtain ⟨s, e, u, opened, failed, changed⟩ := apply_withoutProfiles
  rcases (apply_error rfl failed).2 with same | ⟨d, first, second, location, hd, half⟩
  · exact absurd (same levelFile) changed
  · exact ⟨s, e, u, d, first, second, location, opened, failed, hd, half⟩

end Session

end GpuManagement
