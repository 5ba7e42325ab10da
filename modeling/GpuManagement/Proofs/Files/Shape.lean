import GpuManagement.Files.Tree
import GpuManagement.Proofs.Data.Outcome

/-!
# What paths see of a tree, and what writing changes

A path is followed through directories and links, and never looks into a file. So two trees of the
same shape, which differ in the content of files at most, resolve every path alike
(`SameShape.resolve_eq`). Writing replaces the content of one file and keeps the shape
(`write_sameShape`), which makes `fileAt?_write` the whole effect of a write: the file at the
location the path leads to has the new content, and every other file the one it had.
-/

namespace GpuManagement.Tree

/-! ## Nodes by location -/

@[simp] theorem get?_nil (t : Tree) : t.get? [] = some t := by
  cases t <;> rfl

@[simp] theorem get?_file_cons (content : Bytes) (name : String) (rest : Location) :
    (Tree.file content).get? (name :: rest) = none := rfl

@[simp] theorem get?_link_cons (target name : String) (rest : Location) :
    (Tree.link target).get? (name :: rest) = none := rfl

theorem get?_directory_cons (entries : List (String × Tree)) (name : String) (rest : Location) :
    (Tree.directory entries).get? (name :: rest) =
      (entries.lookup name).bind fun node => node.get? rest := by
  rw [get?]
  cases entries.lookup name <;> rfl

/-- The entry of a directory is the node one step further. -/
theorem get?_concat {t : Tree} {here : Location} {entries : List (String × Tree)}
    (h : t.get? here = some (.directory entries)) (name : String) :
    t.get? (here ++ [name]) = entries.lookup name := by
  induction here generalizing t with
  | nil =>
    cases t with
    | directory entries' =>
      cases h
      rw [List.nil_append, get?_directory_cons]
      cases entries.lookup name with
      | none => rfl
      | some node => exact get?_nil node
    | file _ => cases h
    | link _ => cases h
  | cons step here ih =>
    cases t with
    | directory entries' =>
      rw [get?_directory_cons] at h
      rw [List.cons_append, get?_directory_cons]
      cases hl : entries'.lookup step with
      | none => rw [hl] at h; cases h
      | some node =>
        rw [hl] at h
        exact ih h
    | file _ => cases h
    | link _ => cases h

/-- The names in a directory, looked up after every entry was changed in place. -/
theorem lookup_map_entry (f : String × Tree → Tree) (entries : List (String × Tree))
    (name : String) :
    (entries.map fun entry => (entry.1, f entry)).lookup name =
      (entries.lookup name).map fun node => f (name, node) := by
  induction entries with
  | nil => rfl
  | cons entry entries ih =>
    obtain ⟨other, node⟩ := entry
    by_cases h : name = other
    · subst h
      simp only [List.map_cons, List.lookup_cons_self, Option.map_some]
    · have hb : (name == other) = false := beq_eq_false_iff_ne.mpr h
      simp only [List.map_cons, List.lookup_cons, hb, ih]

/-- One step into a tree that was changed further down. -/
theorem get?_modify_cons (f : Tree → Tree) (entries : List (String × Tree)) (name : String)
    (rest : Location) (other : String) (more : Location) :
    ((Tree.directory entries).modify f (name :: rest)).get? (other :: more) =
      (entries.lookup other).bind fun node =>
        if other = name then (node.modify f rest).get? more else node.get? more := by
  have shape : (Tree.directory entries).modify f (name :: rest) =
      .directory (entries.map fun entry =>
        (entry.1, if entry.1 = name then entry.2.modify f rest else entry.2)) := by
    rw [modify]
    refine congrArg Tree.directory (List.map_congr_left fun entry _ => ?_)
    split <;> rfl
  rw [shape, get?_directory_cons,
    lookup_map_entry (fun entry => if entry.1 = name then entry.2.modify f rest else entry.2)]
  cases entries.lookup other with
  | none => rfl
  | some node =>
    by_cases h : other = name
    · simp only [Option.map_some, Option.bind_some, if_pos h]
    · simp only [Option.map_some, Option.bind_some, if_neg h]

/-! ## Shapes -/

/-- What a path sees of a node. -/
inductive Shape where
  | file
  | directory (names : List String)
  | link (target : String)
  deriving DecidableEq, Repr

/-- What a path sees of a node. -/
def shape : Tree → Shape
  | file _ => .file
  | directory entries => .directory (entries.map Prod.fst)
  | link target => .link target

/-- What a path sees at a location. -/
def shapeAt? (t : Tree) (location : Location) : Option Shape := (t.get? location).map shape

/-- The content of the file at a location, if a file is there. -/
def fileAt? (t : Tree) (location : Location) : Option Bytes :=
  match t.get? location with
  | some (.file content) => some content
  | _ => none

/-- The trees differ in the content of files at most. -/
def SameShape (t u : Tree) : Prop := ∀ location, t.shapeAt? location = u.shapeAt? location

theorem fileAt?_eq_some_iff {t : Tree} {location : Location} {content : Bytes} :
    t.fileAt? location = some content ↔ t.get? location = some (.file content) := by
  unfold fileAt?
  split
  · rename_i c h
    rw [h, Option.some.injEq, Option.some.injEq, Tree.file.injEq]
  · rename_i h
    exact ⟨fun e => (by cases e), fun e => absurd e (h content)⟩

/-- A file in one tree of a shape is a file in the other. -/
theorem SameShape.isFile_iff {t u : Tree} (same : SameShape t u) (location : Location) :
    (∃ content, t.get? location = some (.file content)) ↔
      ∃ content, u.get? location = some (.file content) := by
  have key : ∀ v : Tree, (∃ content, v.get? location = some (.file content)) ↔
      v.shapeAt? location = some .file := by
    intro v
    unfold shapeAt?
    cases v.get? location with
    | none => exact ⟨fun ⟨_, e⟩ => (by cases e), fun e => (by cases e)⟩
    | some node =>
      cases node with
      | file c => exact ⟨fun _ => rfl, fun _ => ⟨c, rfl⟩⟩
      | directory _ => exact ⟨fun ⟨_, e⟩ => (by cases e), fun e => (by cases e)⟩
      | link _ => exact ⟨fun ⟨_, e⟩ => (by cases e), fun e => (by cases e)⟩
  rw [key t, key u, same location]

theorem SameShape.walk_eq {t u : Tree} (same : SameShape t u) (purpose : Purpose) :
    ∀ (parts : List String) (here : Location),
      t.walk purpose here parts = u.walk purpose here parts
  | [], _ => by rw [walk, walk]
  | part :: rest, here => by
    have hs := same here
    unfold shapeAt? at hs
    rw [walk, walk]
    cases ht : t.get? here with
    | none =>
      rw [ht] at hs
      cases hu : u.get? here with
      | none => rfl
      | some _ => rw [hu] at hs; cases hs
    | some node =>
      cases hu : u.get? here with
      | none => rw [ht, hu] at hs; cases hs
      | some node' =>
        rw [ht, hu] at hs
        cases node <;> cases node' <;>
          simp only [Option.map_some, shape, Option.some.injEq, reduceCtorEq] at hs
        · rfl
        · rename_i entries entries'
          -- an entry is the node one step further, where the shapes agree again
          have next := same (here ++ [part])
          unfold shapeAt? at next
          rw [get?_concat ht, get?_concat hu] at next
          simp only [same.walk_eq purpose rest]
          cases hl : entries.lookup part with
          | none =>
            rw [hl] at next
            cases hl' : entries'.lookup part with
            | none => rfl
            | some _ => rw [hl'] at next; cases next
          | some child =>
            cases hl' : entries'.lookup part with
            | none => rw [hl, hl'] at next; cases next
            | some child' =>
              rw [hl, hl'] at next
              cases child <;> cases child' <;>
                simp only [Option.map_some, shape, Option.some.injEq, reduceCtorEq,
                  Shape.link.injEq] at next
              · rfl
              · rfl
              · rw [next]
        · rfl

theorem SameShape.resolveFrom_eq {t u : Tree} (same : SameShape t u) (purpose : Purpose) :
    ∀ (fuel : Nat) (here : Location) (parts : List String),
      t.resolveFrom purpose fuel here parts = u.resolveFrom purpose fuel here parts
  | 0, here, parts => by rw [resolveFrom, resolveFrom, same.walk_eq]
  | fuel + 1, here, parts => by
    rw [resolveFrom, resolveFrom, same.walk_eq]
    simp only [same.resolveFrom_eq purpose fuel]

/-- **Paths look at shapes only.** -/
theorem SameShape.resolve_eq {t u : Tree} (same : SameShape t u) (purpose : Purpose) (p : Path) :
    t.resolve purpose p = u.resolve purpose p := by
  unfold resolve
  simp only [same.resolveFrom_eq purpose]

/-! ## Writing -/

/-- A file that is replaced by another leaves the rest of the tree as it was. -/
theorem get?_modify_file {t : Tree} {location : Location} {old : Bytes} (new : Bytes)
    (h : t.get? location = some (.file old)) :
    (t.modify (fun _ => .file new) location).get? location = some (.file new) ∧
      ∀ other, other ≠ location →
        (t.modify (fun _ => .file new) location).shapeAt? other = t.shapeAt? other ∧
        (t.modify (fun _ => .file new) location).fileAt? other = t.fileAt? other := by
  induction location generalizing t with
  | nil =>
    rw [get?_nil] at h
    cases h
    refine ⟨rfl, fun other hne => ?_⟩
    cases other with
    | nil => exact absurd rfl hne
    | cons name rest => exact ⟨rfl, rfl⟩
  | cons name rest ih =>
    cases t with
    | file _ => cases h
    | link _ => cases h
    | directory entries =>
      rw [get?_directory_cons] at h
      cases hl : entries.lookup name with
      | none => rw [hl] at h; cases h
      | some node =>
        rw [hl] at h
        obtain ⟨at_, others⟩ := ih h
        refine ⟨?_, fun other hne => ?_⟩
        · rw [get?_modify_cons, hl, Option.bind_some, if_pos rfl]
          exact at_
        · cases other with
          | nil =>
            have names : ∀ f : String × Tree → Tree,
                ((entries.map fun entry => if entry.1 = name then (entry.1, f entry) else entry).map
                  Prod.fst) = entries.map Prod.fst := by
              intro f
              rw [List.map_map]
              refine List.map_congr_left fun entry _ => ?_
              show (if entry.1 = name then (entry.1, f entry) else entry).1 = entry.1
              split <;> rfl
            refine ⟨?_, rfl⟩
            show some (Shape.directory _) = some (Shape.directory _)
            rw [names fun entry => entry.2.modify (fun _ => .file new) rest]
          | cons step more =>
            unfold shapeAt? fileAt?
            rw [get?_modify_cons, get?_directory_cons]
            by_cases hs : step = name
            · subst hs
              rw [hl]
              simp only [Option.bind_some, ↓reduceIte]
              exact others more fun e => hne (by rw [e])
            · simp only [if_neg hs, and_self]

/-- A file is read exactly when the path leads to the location of one. -/
theorem content_eq_ok_iff {t : Tree} {p : Path} {content : Bytes} :
    t.content p = .ok content ↔
      ∃ location, t.resolve .use p = .ok location ∧ t.fileAt? location = some content := by
  unfold Tree.content find
  constructor
  · intro h
    obtain ⟨node, hn, h⟩ := Outcome.bind_eq_ok.mp h
    obtain ⟨location, hl, hn⟩ := Outcome.bind_eq_ok.mp hn
    refine ⟨location, hl, fileAt?_eq_some_iff.mpr ?_⟩
    cases hg : t.get? location with
    | none => rw [hg] at hn; cases hn
    | some node' =>
      rw [hg] at hn
      cases hn
      cases node <;> cases h
      rfl
  · rintro ⟨location, hl, hf⟩
    have found : t.find p = .ok (.file content) := by
      refine Outcome.bind_eq_ok.mpr ⟨location, hl, ?_⟩
      simp only [fileAt?_eq_some_iff.mp hf]
    exact Outcome.bind_eq_ok.mpr ⟨.file content, found, rfl⟩

/-- What a write needs and what it makes of the tree. -/
theorem write_eq_ok_iff {t u : Tree} {p : Path} {content : Bytes} :
    t.write p content = .ok u ↔
      ∃ location old, t.resolve .use p = .ok location ∧ t.get? location = some (.file old) ∧
        u = t.modify (fun _ => .file content) location := by
  unfold Tree.write
  constructor
  · intro h
    obtain ⟨location, hl, h⟩ := Outcome.bind_eq_ok.mp h
    cases hg : t.get? location with
    | none => rw [hg] at h; cases h
    | some node =>
      rw [hg] at h
      cases node with
      | file old =>
        cases h
        exact ⟨location, old, hl, hg, rfl⟩
      | directory _ => cases h
      | link _ => cases h
  · rintro ⟨location, old, hl, hg, rfl⟩
    refine Outcome.bind_eq_ok.mpr ⟨location, hl, ?_⟩
    simp only [hg]

/-- A write needs a regular file and nothing else. -/
theorem exists_write_iff {t : Tree} {p : Path} {content : Bytes} :
    (∃ u, t.write p content = .ok u) ↔ ∃ old, t.content p = .ok old := by
  simp only [write_eq_ok_iff, content_eq_ok_iff, fileAt?_eq_some_iff]
  constructor
  · rintro ⟨_, location, old, hl, hg, _⟩
    exact ⟨old, location, hl, hg⟩
  · rintro ⟨old, location, hl, hg⟩
    exact ⟨_, location, old, hl, hg, rfl⟩

theorem write_sameShape {t u : Tree} {p : Path} {content : Bytes} (h : t.write p content = .ok u) :
    SameShape u t := by
  obtain ⟨location, old, _, hg, rfl⟩ := write_eq_ok_iff.mp h
  intro other
  obtain ⟨at_, others⟩ := get?_modify_file content hg
  by_cases ho : other = location
  · subst ho
    unfold shapeAt?
    rw [at_, hg]
    rfl
  · exact (others other ho).1

/-- **The effect of a write**: the file that the path leads to has the new content, and every
other file what it had. -/
theorem fileAt?_write {t u : Tree} {p : Path} {content : Bytes} {location : Location}
    (h : t.write p content = .ok u) (hl : t.resolve .use p = .ok location) (other : Location) :
    u.fileAt? other = if other = location then some content else t.fileAt? other := by
  obtain ⟨location', old, hl', hg, rfl⟩ := write_eq_ok_iff.mp h
  rw [hl] at hl'
  cases hl'
  obtain ⟨at_, others⟩ := get?_modify_file content hg
  by_cases ho : other = location
  · rw [if_pos ho, ho]
    exact fileAt?_eq_some_iff.mpr at_
  · rw [if_neg ho]
    exact (others other ho).2

end GpuManagement.Tree
