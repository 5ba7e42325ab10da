import GpuManagement.Files.Read
import GpuManagement.Proofs.Files.Follow

/-!
# Readings come from files

Whatever a reading makes of a text, it read a regular file first. `IsReadable` is that file, and
each way to read has the law that its success needs one. Which file it is depends on the shape of
the tree only (`IsReadable.of_sameShape`), so a reading that succeeded once finds its file again
after any number of writes.
-/

namespace GpuManagement.Files

/-- The path leads to a regular file. -/
def IsReadable (t : Tree) (p : Path) : Prop := ∃ content, t.content p = .ok content

variable {t : Tree} {p : Path}

/-- Trees of the same shape have the same files to read. -/
theorem IsReadable.of_sameShape {u : Tree} (same : Tree.SameShape u t) (h : IsReadable t p) :
    IsReadable u p := by
  obtain ⟨content, h⟩ := h
  obtain ⟨location, hl, hf⟩ := Tree.content_eq_ok_iff.mp h
  obtain ⟨content', hc⟩ := (same.isFile_iff location).mpr ⟨content, Tree.fileAt?_eq_some_iff.mp hf⟩
  refine ⟨content', Tree.content_eq_ok_iff.mpr ⟨location, ?_, Tree.fileAt?_eq_some_iff.mpr hc⟩⟩
  rw [same.resolve_eq, hl]

/-- A file that is read is found. -/
theorem IsReadable.exists_find (h : IsReadable t p) : ∃ node, t.find p = .ok node := by
  obtain ⟨content, h⟩ := h
  obtain ⟨node, hn, _⟩ := Outcome.bind_eq_ok.mp h
  exact ⟨node, hn⟩

theorem atPath_eq_ok {α : Type} {x : Except Fault α} {value : α} :
    atPath p x = .ok value ↔ x = .ok value := by
  cases x with
  | ok _ => exact ⟨fun h => (by cases h; rfl), fun h => (by cases h; rfl)⟩
  | error _ => exact ⟨fun h => (by cases h), fun h => (by cases h)⟩

theorem isReadable_of_readContent {content : Bytes} (h : readContent t p = .ok content) :
    IsReadable t p := ⟨content, atPath_eq_ok.mp h⟩

theorem isReadable_of_readText {text : List Char} (h : readText t p = .ok text) :
    IsReadable t p := by
  obtain ⟨_, hc, _⟩ := Outcome.bind_eq_ok.mp h
  exact isReadable_of_readContent hc

theorem isReadable_of_readWord {word : List Char} (h : readWord t p = .ok word) :
    IsReadable t p := by
  obtain ⟨_, ht, _⟩ := Outcome.bind_eq_ok.mp h
  exact isReadable_of_readText ht

theorem isReadable_of_readLine {line : List Char} (h : readLine t p = .ok line) :
    IsReadable t p := by
  obtain ⟨_, ht, _⟩ := Outcome.bind_eq_ok.mp h
  exact isReadable_of_readText ht

theorem isReadable_of_readLines {ls : List (List Char)} (h : readLines t p = .ok ls) :
    IsReadable t p := by
  obtain ⟨_, ht, _⟩ := Outcome.bind_eq_ok.mp h
  exact isReadable_of_readText ht

theorem isReadable_of_readBytes {limit : Nat} {b : Bytes} (h : readBytes t p limit = .ok b) :
    IsReadable t p := by
  obtain ⟨_, hc, _⟩ := Outcome.bind_eq_ok.mp h
  exact isReadable_of_readContent hc

theorem isReadable_of_readWordAs {α : Type} {read : List Char → Option α}
    {problem : List Char → Malformation} {value : α} (h : readWordAs read problem t p = .ok value) :
    IsReadable t p := by
  obtain ⟨_, hw, _⟩ := Outcome.bind_eq_ok.mp h
  exact isReadable_of_readWord hw

/-- A write succeeds exactly where there is a file to read. -/
theorem exists_writeText_iff (text : String) :
    (∃ u, writeText t p text = .ok u) ↔ IsReadable t p := by
  unfold IsReadable writeText
  simp only [atPath_eq_ok]
  exact Tree.exists_write_iff

end GpuManagement.Files
