import GpuManagement.Files.Read
import GpuManagement.Proofs.Files.Follow
import GpuManagement.Proofs.Text.Numeral

/-!
# Directories whose entries are numbered

Nodes, links, processes and queues have a number for a name. A number may be written with zeros
before it, so several names can have one number: `numberedEntries` gives each name its entry, in the
order of the numbers. Anything that is found under such a name has an entry
(`mem_numberedEntries_of_find`), which ties what can be read to what is listed.
-/

namespace GpuManagement.Files

variable {t : Tree} {p : Path} {name : String} {n : UInt32}

/-- The entries are the names that write a number. -/
theorem mem_numberedEntries {path : Path} :
    (n, path) ∈ numberedEntries t p ↔
      ∃ name ∈ listNames t p, entryNumber? name = some n ∧ p.child name = path := by
  unfold numberedEntries
  rw [(sortBy_perm _ _).mem_iff, List.mem_filterMap]
  simp only [Option.map_eq_some_iff, Prod.mk.injEq]
  constructor
  · rintro ⟨name, listed, m, hm, rfl, rfl⟩
    exact ⟨name, listed, hm, rfl⟩
  · rintro ⟨name, listed, hn, rfl⟩
    exact ⟨name, listed, n, hn, rfl, rfl⟩

theorem ascending_numberedEntries (t : Tree) (p : Path) :
    (numberedEntries t p).Pairwise fun a b => a.1.toNat ≤ b.1.toNat :=
  sortBy_pairwise (fun entry : UInt32 × Path => entry.1.toNat) _

/-- A number is the number of its decimal form. -/
theorem entryNumber?_decimal (n : UInt32) :
    entryNumber? (String.ofList (Text.decimal n.toNat)) = some n := by
  unfold entryNumber?
  rw [String.toList_ofList, if_pos (Text.isNumber_decimal _), Text.readU32?_decimal]

/-- A name that writes a number is looked up as a name. -/
theorem isName_of_entryNumber? (h : entryNumber? name = some n) : Path.IsName name := by
  obtain ⟨number, _⟩ := Option.ite_none_right_eq_some.mp h
  obtain ⟨nonempty, digits⟩ := Bool.and_eq_true_iff.mp number
  obtain ⟨c, rest, e⟩ := List.exists_cons_of_ne_nil (l := name.toList) (by
    rintro none
    rw [none] at nonempty
    cases nonempty)
  rw [e] at digits
  refine Path.isName_of_mem (c := c) (by rw [e]; exact List.mem_cons_self) ?_
  rintro rfl
  exact absurd (List.all_eq_true.mp digits _ List.mem_cons_self) (by decide)

/-- **What is found under a number is listed.** -/
theorem mem_numberedEntries_of_find {node : Tree} (numbered : entryNumber? name = some n)
    (h : t.find (p.child name) = .ok node) : (n, p.child name) ∈ numberedEntries t p :=
  mem_numberedEntries.mpr
    ⟨name, mem_listNames_of_find (isName_of_entryNumber? numbered) h, numbered, rfl⟩

end GpuManagement.Files
