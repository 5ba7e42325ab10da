import GpuManagement.Files.Read
import GpuManagement.Proofs.Data.Outcome

/-!
# What a path shows

A reading asks a path for a file, for the names in a directory or for the target of a link, and
learns no more than `Tree.seen?`. Two trees that show the same at a path are therefore read alike
there, but for the words of a refusal (`Outcome.Alike`).
-/

namespace GpuManagement

namespace Tree

/-- What is seen of a node without going further into the tree. -/
inductive Sight where
  | file (content : Bytes)
  | directory (names : List String)
  | link (target : String)
  deriving DecidableEq, Repr

/-- What is seen of a node. -/
def sight : Tree → Sight
  | file content => .file content
  | directory entries => .directory (entries.map Prod.fst)
  | link target => .link target

/-- What a path shows, if it leads anywhere. -/
def seen? (t : Tree) (purpose : Purpose) (p : Path) : Option Sight :=
  ((t.resolve purpose p).toOption.bind t.get?).map sight

variable {t u : Tree} {p : Path}

/-- Two trees show the same at each of some paths. -/
def AgreeOn (purpose : Purpose) (t u : Tree) (paths : List Path) : Prop :=
  ∀ p ∈ paths, t.seen? purpose p = u.seen? purpose p

instance (purpose : Purpose) (t u : Tree) (paths : List Path) :
    Decidable (AgreeOn purpose t u paths) :=
  inferInstanceAs (Decidable (∀ p ∈ paths, t.seen? purpose p = u.seen? purpose p))

theorem AgreeOn.mono {purpose : Purpose} {t u : Tree} {few many : List Path}
    (h : AgreeOn purpose t u many) (sub : few ⊆ many) : AgreeOn purpose t u few :=
  fun p hp => h p (sub hp)

theorem toOption_find (t : Tree) (p : Path) :
    (t.find p).toOption.map sight = t.seen? .use p := by
  unfold find seen?
  cases t.resolve .use p with
  | error _ => rfl
  | ok location =>
    rw [Outcome.ok_bind, Except.toOption, Option.bind_some]
    cases t.get? location with
    | none => rfl
    | some _ => rfl

/-- A file is read where one is shown. -/
theorem toOption_content (t : Tree) (p : Path) :
    (t.content p).toOption =
      match t.seen? .use p with
      | some (.file content) => some content
      | _ => none := by
  rw [← toOption_find]
  unfold Tree.content
  cases t.find p with
  | error _ => rfl
  | ok node => cases node <;> rfl

/-- A directory is listed where one is shown. -/
theorem toOption_names (t : Tree) (p : Path) :
    (t.names p).toOption =
      match t.seen? .use p with
      | some (.directory names) =>
        some (sortBy (fun a b => Text.before a.toList b.toList) names)
      | _ => none := by
  rw [← toOption_find]
  unfold names
  cases t.find p with
  | error _ => rfl
  | ok node => cases node <;> rfl

theorem isDirectory_eq_seen (t : Tree) (p : Path) :
    t.isDirectory p =
      match t.seen? .use p with
      | some (.directory _) => true
      | _ => false := by
  rw [← toOption_find]
  unfold isDirectory
  cases t.find p with
  | error _ => rfl
  | ok node => cases node <;> rfl

/-- The target of a link is read where one is shown. -/
theorem toOption_readLink (t : Tree) (p : Path) :
    (t.readLink p).toOption =
      match t.seen? .inspect p with
      | some (.link target) => some target
      | _ => none := by
  unfold readLink seen?
  cases t.resolve .inspect p with
  | error _ => rfl
  | ok location =>
    rw [Outcome.ok_bind, Except.toOption, Option.bind_some]
    cases t.get? location with
    | none => rfl
    | some node => cases node <;> rfl

end Tree

namespace Files

variable {t u : Tree} {p : Path}

/-- What a path is refused with does not matter. -/
theorem toOption_atPath {α : Type} (p : Path) (x : Except Fault α) :
    (atPath p x).toOption = x.toOption := by
  cases x <;> rfl

/-! ## Readings that see the same -/

theorem readText_alike (same : t.seen? .use p = u.seen? .use p) :
    Outcome.Alike (readText t p) (readText u p) := by
  have content : Outcome.Alike (readContent t p) (readContent u p) := by
    unfold Outcome.Alike readContent
    rw [toOption_atPath, toOption_atPath, Tree.toOption_content, Tree.toOption_content, same]
  exact content.bind fun _ _ => .refl _

theorem readWord_alike (same : t.seen? .use p = u.seen? .use p) :
    Outcome.Alike (readWord t p) (readWord u p) :=
  (readText_alike same).bind fun _ _ => .refl _

theorem readHex_alike (same : t.seen? .use p = u.seen? .use p) :
    Outcome.Alike (readHex t p) (readHex u p) :=
  (readWord_alike same).bind fun _ _ => .refl _

theorem readProperties_alike (same : t.seen? .use p = u.seen? .use p) :
    Outcome.Alike (readProperties t p) (readProperties u p) :=
  (readText_alike same).bind fun _ _ => .refl _

theorem readLink_alike (same : t.seen? .inspect p = u.seen? .inspect p) :
    Outcome.Alike (atPath p (t.readLink p)) (atPath p (u.readLink p)) := by
  unfold Outcome.Alike
  rw [toOption_atPath, toOption_atPath, Tree.toOption_readLink, Tree.toOption_readLink, same]

theorem listNames_eq (same : t.seen? .use p = u.seen? .use p) : listNames t p = listNames u p := by
  have names : Outcome.Alike (t.names p) (u.names p) := by
    unfold Outcome.Alike
    rw [Tree.toOption_names, Tree.toOption_names, same]
  unfold listNames
  rcases names.cases with ⟨ns, ht, hu⟩ | ⟨e, e', ht, hu⟩
  · rw [ht, hu]
  · rw [ht, hu]

theorem numberedEntries_eq (same : t.seen? .use p = u.seen? .use p) :
    numberedEntries t p = numberedEntries u p := by
  unfold numberedEntries
  rw [listNames_eq same]

theorem isDirectory_eq (same : t.seen? .use p = u.seen? .use p) :
    t.isDirectory p = u.isDirectory p := by
  rw [Tree.isDirectory_eq_seen, Tree.isDirectory_eq_seen, same]

end Files

end GpuManagement
