import GpuManagement.Device.Report
import GpuManagement.Proofs.Data.Outcome
import Mathlib.Data.List.TakeWhile

/-!
# What stands in the way of a number

There are four ways for the file of a number not to have one: it is not there, it is a directory, it
is blank, or it is not text (`Obstacle`). Each has a status of its own, and every way to read a
number from the first word of a file fails with that status (`readWordAs_failsWith`). A reader of
the first line sees a blank line where the file is blank, and has to refuse it by itself.

A file that is not there is one that could be made: its directory is there, and the system would
accept the path. Looking for it is a walk like that of making it up to the last name, which is where
it ends (`Tree.walk_use_of_fill`).
-/

namespace GpuManagement

/-! ## Blank text -/

namespace Text

variable {cs : List Char}

theorem allBlank_iff : allBlank cs = true ↔ ∀ c ∈ cs, isBlank c = true := List.all_eq_true

/-- The pieces of a text hold characters of the text only. -/
theorem mem_of_mem_splitWhere {p : Char → Bool} {piece : List Char} {c : Char}
    (hp : piece ∈ splitWhere p cs) (hc : c ∈ piece) : c ∈ cs := by
  induction cs generalizing piece with
  | nil =>
    cases List.mem_singleton.mp hp
    exact hc
  | cons d cs ih =>
    rw [splitWhere] at hp
    split at hp
    · rcases List.mem_cons.mp hp with rfl | hp
      · cases hc
      · exact List.mem_cons_of_mem _ (ih hp hc)
    · split at hp
      · cases List.mem_singleton.mp hp
        exact List.mem_cons.mpr (.inl (List.mem_singleton.mp hc))
      · rename_i first rest e
        rcases List.mem_cons.mp hp with rfl | hp
        · rcases List.mem_cons.mp hc with rfl | hc
          · exact List.mem_cons_self
          · exact List.mem_cons_of_mem _ (ih (e ▸ List.mem_cons_self) hc)
        · exact List.mem_cons_of_mem _ (ih (e ▸ List.mem_cons_of_mem _ hp) hc)

/-- The pieces of a blank text are blank. -/
theorem allBlank_of_mem_splitWhere (blank : allBlank cs = true) {p : Char → Bool}
    {piece : List Char} (hp : piece ∈ splitWhere p cs) : allBlank piece = true :=
  allBlank_iff.mpr fun _ hc => allBlank_iff.mp blank _ (mem_of_mem_splitWhere hp hc)

/-- A blank text has no words. -/
theorem words_of_allBlank (blank : allBlank cs = true) : words cs = [] := by
  refine List.eq_nil_iff_forall_not_mem.mpr fun word hw => ?_
  obtain ⟨nonempty, dark⟩ := words_spec hw
  obtain ⟨c, rest, rfl⟩ := List.exists_cons_of_ne_nil nonempty
  have light := allBlank_of_mem_splitWhere blank (List.mem_filter.mp hw).1
  have := allBlank_iff.mp light c List.mem_cons_self
  rw [dark c List.mem_cons_self] at this
  cases this

theorem trim_of_allBlank (blank : allBlank cs = true) : trim cs = [] := by
  have start : trimStart cs = [] := List.dropWhile_eq_nil_iff.mpr (allBlank_iff.mp blank)
  unfold trim
  rw [start]
  rfl

/-- The first line of a blank text is blank, and so is the empty line that stands for none. -/
theorem allBlank_headD_lines (blank : allBlank cs = true) :
    allBlank ((lines cs).headD []) = true := by
  have each : ∀ line ∈ lines cs, allBlank line = true := by
    intro line hl
    unfold lines at hl
    rcases List.mem_append.mp hl with hl | hl
    · obtain ⟨piece, hp, rfl⟩ := List.mem_map.mp hl
      have light := allBlank_of_mem_splitWhere blank (List.dropLast_subset _ hp)
      unfold dropLastIf
      split
      · exact allBlank_iff.mpr fun c hc => allBlank_iff.mp light c (List.dropLast_subset _ hc)
      · exact light
    · have hl := (List.mem_filter.mp hl).1
      exact allBlank_of_mem_splitWhere blank
        (List.mem_of_getLast? (Option.mem_toList.mp hl))
  cases h : lines cs with
  | nil => rfl
  | cons line rest => exact each line (h ▸ List.mem_cons_self)

end Text

open Text

/-- A blank line of the feature file is not taken for a mask. -/
theorem featureMask_of_allBlank {line : List Char} (blank : allBlank line = true) :
    featureMask line = .fail .unexpectedData := by
  have light : allBlank ((splitWhere (· = ':') line).getLastD []) = true := by
    cases h : splitWhere (· = ':') line with
    | nil => rfl
    | cons piece rest =>
      refine allBlank_of_mem_splitWhere blank (p := (· = ':')) ?_
      rw [h, List.getLastD_eq_getLast?, List.getLast?_eq_some_getLast (List.cons_ne_nil _ _)]
      exact List.getLast_mem _
  unfold featureMask Files.hexNumber?
  rw [trim_of_allBlank light]
  rfl

/-! ## A file that is not there -/

namespace Tree

variable {t : Tree} {p : Path} {location : Location}

/-- Walking to use what is there is walking to fill it, but that it ends where nothing is there. -/
theorem walk_use_of_fill {stop : Stop} : ∀ {parts : List String} {here : Location},
    t.walk .fill here parts = .ok stop →
      t.walk .use here parts = .ok stop ∨
        t.walk .use here parts = .error .noEntry ∧ ∃ location, stop = .arrived location
  | [], here, h => .inl h
  | part :: rest, here, h => by
    rw [walk] at h ⊢
    cases hg : t.get? here with
    | none =>
      rw [hg] at h
      cases h
    | some node =>
      rw [hg] at h
      cases node with
      | file _ => cases h
      | link _ => cases h
      | directory entries =>
        simp only [Purpose.allowsFree, Purpose.followsLast, Bool.not_true, Bool.and_false,
          Bool.and_true, Bool.false_eq_true, if_false] at h ⊢
        by_cases still : Path.isStill part = true
        · rw [if_pos still] at h ⊢
          exact walk_use_of_fill h
        · rw [if_neg still] at h ⊢
          by_cases up : part = ".."
          · rw [if_pos up] at h ⊢
            by_cases top : here.isEmpty = true
            · rw [if_pos top] at h
              cases h
            · rw [if_neg top] at h ⊢
              exact walk_use_of_fill h
          · rw [if_neg up] at h ⊢
            by_cases long : maxNameBytes < part.utf8ByteSize
            · rw [if_pos long] at h
              cases h
            · rw [if_neg long] at h ⊢
              cases hl : entries.lookup part with
              | none =>
                simp only [hl] at h
                split at h
                · cases h
                  exact .inr ⟨rfl, _, rfl⟩
                · cases h
              | some child =>
                rw [hl] at h
                cases child with
                | link target => exact .inl h
                | file _ => exact walk_use_of_fill h
                | directory _ => exact walk_use_of_fill h

/-- Following a path to use what is there comes to where filling it would begin, or ends before. -/
theorem resolveFrom_use_of_fill {fuel : Nat} {here : Location} {parts : List String}
    (h : t.resolveFrom .fill fuel here parts = .ok location) :
    t.resolveFrom .use fuel here parts = .ok location ∨
      t.resolveFrom .use fuel here parts = .error .noEntry := by
  induction fuel generalizing here parts with
  | zero =>
    rw [resolveFrom] at h ⊢
    cases hw : t.walk .fill here parts with
    | error _ =>
      rw [hw] at h
      cases h
    | ok stop =>
      rw [hw] at h
      rcases walk_use_of_fill hw with same | ⟨ended, _⟩
      · rw [same]
        exact .inl h
      · rw [ended]
        exact .inr rfl
  | succ fuel ih =>
    rw [resolveFrom] at h ⊢
    cases hw : t.walk .fill here parts with
    | error _ =>
      rw [hw] at h
      cases h
    | ok stop =>
      rw [hw] at h
      rcases walk_use_of_fill hw with same | ⟨ended, _⟩
      · rw [same]
        cases stop with
        | arrived _ => exact .inl h
        | linked at_ target rest => exact ih h
      · rw [ended]
        exact .inr rfl

/-- The path leads to a place in a directory where nothing is. -/
def IsFree (t : Tree) (p : Path) : Prop :=
  ∃ location, t.resolve .fill p = .ok location ∧ t.get? location = none

/-- Nothing is found where nothing is. -/
theorem IsFree.find_eq (free : t.IsFree p) : t.find p = .error .noEntry := by
  obtain ⟨location, hr, nothing⟩ := free
  have ends : t.resolve .use p = .ok location ∨ t.resolve .use p = .error .noEntry := by
    unfold resolve at hr ⊢
    cases href : refusal? p with
    | some _ =>
      rw [href] at hr
      cases hr
    | none =>
      rw [href] at hr
      by_cases rooted : p.rooted = true
      · simp only [if_pos rooted] at hr ⊢
        exact resolveFrom_use_of_fill hr
      · simp only [if_neg rooted] at hr
        cases hr
  unfold find
  rcases ends with e | e
  · rw [e, Outcome.ok_bind, nothing]
  · rw [e]
    rfl

end Tree

/-! ## The four ways -/

namespace Files

/-- What is at a path instead of a file with a word in it. -/
inductive Obstacle where
  | missing
  | directory
  | blank
  | notText
  deriving DecidableEq, Repr

namespace Obstacle

/-- The obstacle is at the path, wherever the path leads. -/
def At (t : Tree) (p : Path) : Obstacle → Prop
  | missing => t.IsFree p
  | directory => ∃ entries, t.find p = .ok (.directory entries)
  | blank => ∃ content text, t.content p = .ok content ∧ content.text? = some text ∧
      allBlank text.toList = true
  | notText => ∃ content, t.content p = .ok content ∧ content.text? = none

/-- The status that tells of an obstacle. -/
def status : Obstacle → Status
  | missing => .notSupported
  | directory => .fileError
  | blank => .noData
  | notText => .unexpectedData

end Obstacle

variable {t : Tree} {p : Path} {o : Obstacle}

theorem readContent_of_content {content : Bytes} (h : t.content p = .ok content) :
    readContent t p = .ok content := by
  unfold readContent
  rw [h]
  rfl

/-- The text of a blank file is blank. -/
theorem readText_of_blank (there : Obstacle.blank.At t p) :
    ∃ text, readText t p = .ok text ∧ allBlank text = true := by
  obtain ⟨content, text, hc, ht, blank⟩ := there
  refine ⟨text.toList, ?_, blank⟩
  unfold readText
  rw [readContent_of_content hc, Outcome.ok_bind, ht]

/-- Of everything else there is no text, and the status tells why. -/
theorem readText_failsWith (there : o.At t p) (other : o ≠ .blank) :
    (readText t p).FailsWith o.status := by
  cases o with
  | blank => exact absurd rfl other
  | missing =>
    have none : t.content p = .error .noEntry := by
      unfold Tree.content
      rw [there.find_eq]
      rfl
    unfold readText readContent
    rw [none]
    exact ⟨_, rfl, rfl⟩
  | directory =>
    obtain ⟨entries, found⟩ := there
    have refused : t.content p = .error .isDirectory := by
      unfold Tree.content
      rw [found]
      rfl
    unfold readText readContent
    rw [refused]
    exact ⟨_, rfl, rfl⟩
  | notText =>
    obtain ⟨content, hc, ht⟩ := there
    unfold readText
    rw [readContent_of_content hc, Outcome.ok_bind, ht]
    exact ⟨_, rfl, rfl⟩

theorem readLine_failsWith (there : o.At t p) (other : o ≠ .blank) :
    (readLine t p).FailsWith o.status := (readText_failsWith there other).bind _

/-- The first line of a blank file is blank. -/
theorem readLine_of_blank (there : Obstacle.blank.At t p) :
    ∃ line, readLine t p = .ok line ∧ allBlank line = true := by
  obtain ⟨text, ht, blank⟩ := readText_of_blank there
  refine ⟨_, Outcome.bind_eq_ok.mpr ⟨text, ht, rfl⟩, allBlank_headD_lines blank⟩

/-- **No number is the first word of what is not a file with a word.** -/
theorem readWordAs_failsWith {α : Type} {read : List Char → Option α}
    {problem : List Char → Malformation} (there : o.At t p) :
    (readWordAs read problem t p).FailsWith o.status := by
  by_cases blank : o = .blank
  · subst blank
    obtain ⟨text, ht, blank⟩ := readText_of_blank there
    have word : readWord t p = .ok [] := by
      refine Outcome.bind_eq_ok.mpr ⟨text, ht, ?_⟩
      unfold firstWord
      rw [words_of_allBlank blank]
      rfl
    unfold readWordAs
    rw [word]
    exact ⟨_, rfl, rfl⟩
  · exact ((readText_failsWith there blank).bind _).bind _

end Files

end GpuManagement
