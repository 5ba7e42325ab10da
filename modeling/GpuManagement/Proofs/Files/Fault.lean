import GpuManagement.Files.Read
import GpuManagement.Proofs.Data.Outcome

/-!
# What the tree refuses with

A path that cannot be followed to a file is refused for one of a few reasons, the same in every
tree (`Tree.faults`). So what a status means can be told apart by where it comes from: that a
process or a device is missing is never said by a file that cannot be read
(`Files.toStatus_ne_notFound_of_readWord`).
-/

namespace GpuManagement

namespace Tree

/-- The reasons why a path does not lead to a file that can be read. -/
def faults : List Fault :=
  [.noEntry, .notDirectory, .isDirectory, .nameTooLong, .tooManyLinks, .nulInPath]

variable {t : Tree} {purpose : Purpose} {p : Path} {fault : Fault}

theorem mem_faults_of_walk {parts : List String} {here : Location}
    (h : t.walk purpose here parts = .error fault) : fault ∈ faults := by
  induction parts generalizing here with
  | nil => cases h
  | cons part rest ih =>
    rw [walk] at h
    split at h
    · split at h
      · exact ih h
      · split at h
        · split at h
          · cases h
            decide
          · exact ih h
        · split at h
          · cases h
            decide
          · split at h
            · split at h
              · cases h
              · cases h
                decide
            · split at h <;> cases h
            · exact ih h
    · cases h
      decide
    · cases h
      decide

theorem mem_faults_of_resolveFrom {fuel : Nat} {here : Location} {parts : List String}
    (h : t.resolveFrom purpose fuel here parts = .error fault) : fault ∈ faults := by
  induction fuel generalizing here parts with
  | zero =>
    rw [resolveFrom] at h
    split at h
    · rename_i refused
      cases h
      exact mem_faults_of_walk refused
    · cases h
    · cases h
      decide
  | succ fuel ih =>
    rw [resolveFrom] at h
    split at h
    · rename_i refused
      cases h
      exact mem_faults_of_walk refused
    · cases h
    · exact ih h

theorem mem_faults_of_resolve (h : t.resolve purpose p = .error fault) : fault ∈ faults := by
  unfold resolve at h
  split at h
  · rename_i refused
    cases h
    unfold refusal? at refused
    split at refused
    · cases refused
      decide
    · split at refused <;> cases refused
      decide
  · split at h
    · exact mem_faults_of_resolveFrom h
    · cases h
      decide

theorem mem_faults_of_find (h : t.find p = .error fault) : fault ∈ faults := by
  rcases Outcome.bind_eq_error.mp h with refused | ⟨location, _, h⟩
  · exact mem_faults_of_resolve refused
  · cases there : t.get? location with
    | some node =>
      rw [there] at h
      cases h
    | none =>
      rw [there] at h
      cases h
      decide

theorem mem_faults_of_content (h : t.content p = .error fault) : fault ∈ faults := by
  rcases Outcome.bind_eq_error.mp h with refused | ⟨node, _, h⟩
  · exact mem_faults_of_find refused
  · cases node with
    | file content => cases h
    | directory entries =>
      cases h
      decide
    | link target =>
      cases h
      decide

end Tree

namespace Files

variable {t : Tree} {p : Path} {e : Error}

/-- A file that cannot be read is refused under its own path. -/
theorem exists_fault_of_readWord (h : readWord t p = .error e) :
    ∃ fault ∈ Fault.notUtf8 :: Tree.faults, e = .access p fault := by
  rcases Outcome.bind_eq_error.mp h with h | ⟨_, _, h⟩
  · rcases Outcome.bind_eq_error.mp h with h | ⟨content, _, h⟩
    · unfold readContent atPath at h
      split at h
      · cases h
      · rename_i fault refused
        cases h
        exact ⟨fault, List.mem_cons_of_mem _ (Tree.mem_faults_of_content refused), rfl⟩
    · cases text : content.text? with
      | some text' =>
        rw [text] at h
        cases h
      | none =>
        rw [text] at h
        cases h
        exact ⟨_, List.mem_cons_self, rfl⟩
  · cases h

/-- A file that cannot be read does not mean that something is not found. -/
theorem toStatus_ne_notFound_of_readWord (h : readWord t p = .error e) :
    e.toStatus ≠ .notFound := by
  obtain ⟨fault, listed, rfl⟩ := exists_fault_of_readWord h
  have all : ∀ fault ∈ Fault.notUtf8 :: Tree.faults, Status.ofErrno fault.errno ≠ .notFound := by
    decide
  exact all fault listed

end Files

end GpuManagement
