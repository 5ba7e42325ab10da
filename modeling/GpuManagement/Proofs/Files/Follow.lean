import GpuManagement.Files.Read
import GpuManagement.Proofs.Files.Shape

/-!
# Directories on the way

A path that leads somewhere leads there through directories, and the directory before its last name
lists that name. `Tree.find_child` says so, links and limits included: following the shorter path
meets no more links, and its text is no longer.

Whoever lists a directory and whoever opens a file in it by name therefore agree on what is there
(`Files.mem_listNames_of_find`), which is all that a listing of the files of a card is good for.
-/

namespace GpuManagement

namespace Path

/-- A piece of a path that is looked up in a directory. -/
def IsName (part : String) : Prop := isStill part = false ∧ part ≠ ".."

instance (part : String) : Decidable (IsName part) := inferInstanceAs (Decidable (_ ∧ _))

/-- A piece with a character other than a dot is looked up. -/
theorem isName_of_mem {part : String} {c : Char} (hc : c ∈ part.toList) (h : c ≠ '.') :
    IsName part := by
  have other : ∀ dots : String, dots.toList.all (· == '.') = true → part ≠ dots := by
    rintro dots only rfl
    exact h (beq_iff_eq.mp (List.all_eq_true.mp only c hc))
  refine ⟨?_, other ".." (by decide)⟩
  unfold isStill
  rw [Bool.or_eq_false_iff, beq_eq_false_iff_ne, beq_eq_false_iff_ne]
  exact ⟨other "" (by decide), other "." (by decide)⟩

/-- A name after a path stays a piece of its own. -/
theorem openParts_child (p : Path) {name : String} (h : name ≠ "") :
    (p.child name).openParts = p.openParts ++ [name] := by
  unfold openParts child
  rw [if_neg]
  · rfl
  · rw [List.getLast?_append, List.getLast?_singleton]
    exact fun e => h (Option.some.inj e)

/-- The pieces of a path are its open ones, with an empty one after them at most. -/
theorem parts_eq (p : Path) : p.parts = p.openParts ∨ p.parts = p.openParts ++ [""] := by
  unfold openParts
  split
  · rename_i h
    obtain ⟨front, e⟩ := List.getLast?_eq_some_iff.mp h
    rw [e, List.dropLast_concat]
    exact .inr rfl
  · exact .inl rfl

/-- A relative text of one piece continues a path by a name. -/
theorem join_of_pieces_one (p : Path) {text name : String} (h : pieces text = [name])
    (relative : text.toList.head? ≠ some '/') : p.join text = p.child name := by
  unfold join child
  split
  · rename_i rest e
    rw [e] at relative
    exact absurd rfl relative
  · rw [h]

/-- A relative text of two pieces continues a path by two names. -/
theorem join_of_pieces_two (p : Path) {text first second : String}
    (h : pieces text = [first, second]) (named : first ≠ "")
    (relative : text.toList.head? ≠ some '/') : p.join text = (p.child first).child second := by
  unfold join
  split
  · rename_i rest e
    rw [e] at relative
    exact absurd rfl relative
  · rw [h]
    show _ = (⟨p.rooted, (p.child first).openParts ++ [second]⟩ : Path)
    rw [openParts_child p named, List.append_assoc]
    rfl

end Path

namespace Text

/-- Joined pieces with one more at the end. -/
theorem joinWith_concat (separator : List Char) (piece : List Char) :
    ∀ pieces : List (List Char), pieces ≠ [] →
      joinWith separator (pieces ++ [piece]) = joinWith separator pieces ++ separator ++ piece
  | [], h => absurd rfl h
  | [first], _ => rfl
  | first :: second :: rest, _ => by
    show first ++ separator ++ joinWith separator (second :: rest ++ [piece]) =
      first ++ separator ++ joinWith separator (second :: rest) ++ separator ++ piece
    rw [joinWith_concat separator piece (second :: rest) (List.cons_ne_nil _ _)]
    simp only [List.append_assoc]

end Text

namespace Path

/-- The text of a path is the beginning of the text of the path continued by a name. -/
theorem exists_text_child (p : Path) (name : String) :
    ∃ more, (p.child name).text = p.text ++ more := by
  suffices h : ∃ more : List Char,
      Text.joinWith ['/'] ((p.openParts ++ [name]).map String.toList) =
        Text.joinWith ['/'] (p.parts.map String.toList) ++ more by
    obtain ⟨more, h⟩ := h
    refine ⟨String.ofList more, ?_⟩
    show String.ofList ((if p.rooted then ['/'] else []) ++
      Text.joinWith ['/'] ((p.openParts ++ [name]).map String.toList)) = _
    rw [h, ← List.append_assoc, String.ofList_append]
    rfl
  rw [List.map_append, List.map_singleton]
  by_cases empty : p.openParts = []
  · rcases p.parts_eq with e | e
    · rw [e, empty]
      exact ⟨name.toList, rfl⟩
    · rw [e, empty]
      exact ⟨name.toList, rfl⟩
  · have nonempty : p.openParts.map String.toList ≠ [] := fun e => empty (List.map_eq_nil_iff.mp e)
    rw [Text.joinWith_concat _ _ _ nonempty]
    rcases p.parts_eq with e | e
    · rw [e]
      exact ⟨['/'] ++ name.toList, List.append_assoc _ _ _⟩
    · rw [e, List.map_append, List.map_singleton, Text.joinWith_concat _ _ _ nonempty]
      exact ⟨name.toList, by rw [String.toList_empty, List.append_nil]⟩

end Path

namespace Tree

/-! ## Longer and shorter paths -/

/-- A path that is not refused is not refused without its last name. -/
theorem refusal?_of_child {p : Path} {name : String} (h : refusal? (p.child name) = none) :
    refusal? p = none := by
  unfold refusal? at h ⊢
  obtain ⟨more, text⟩ := p.exists_text_child name
  by_cases nul : (p.parts.any fun part => part.toList.contains '\x00') = true
  · obtain ⟨part, hm, hc⟩ := List.any_eq_true.mp nul
    have hm' : part ∈ (p.child name).parts := by
      rcases p.parts_eq with e | e
      · rw [e] at hm
        exact List.mem_append_left _ hm
      · rw [e] at hm
        rcases List.mem_append.mp hm with hm | hm
        · exact List.mem_append_left _ hm
        · rw [List.mem_singleton.mp hm] at hc
          exact absurd hc (by decide)
    rw [if_pos (List.any_eq_true.mpr ⟨part, hm', hc⟩)] at h
    cases h
  · rw [if_neg nul]
    split at h
    · cases h
    · split at h
      · cases h
      · rename_i long
        rw [text, String.utf8ByteSize_append] at long
        rw [if_neg (by omega)]

/-- Walking along more names is walking on from where the first ones led, or waiting at the first
link with more names to follow after it. -/
theorem walk_append (t : Tree) (more : List String) : ∀ (parts : List String) (here : Location),
    t.walk .use here (parts ++ more) =
      match t.walk .use here parts with
      | .error fault => .error fault
      | .ok (.arrived there) => t.walk .use there more
      | .ok (.linked at_ target rest) => .ok (.linked at_ target (rest ++ more))
  | [], here => by
    rw [walk]
    rfl
  | part :: rest, here => by
    rw [List.cons_append, walk, walk]
    cases t.get? here with
    | none => rfl
    | some node =>
      cases node with
      | file _ => rfl
      | link _ => rfl
      | directory entries =>
        simp only [walk_append t more rest, Purpose.allowsFree, Purpose.followsLast, Bool.and_false,
          Bool.not_true, Bool.false_eq_true, if_false]
        by_cases still : Path.isStill part = true
        · simp only [if_pos still]
        · simp only [if_neg still]
          by_cases up : part = ".."
          · simp only [if_pos up]
            by_cases top : here.isEmpty = true
            · simp only [if_pos top]
            · simp only [if_neg top]
          · simp only [if_neg up]
            by_cases long : maxNameBytes < part.utf8ByteSize
            · simp only [if_pos long]
            · simp only [if_neg long]
              cases entries.lookup part with
              | none => rfl
              | some child => cases child <;> rfl

/-- A longer path is followed through where the shorter one leads. -/
theorem resolveFrom_append {t : Tree} {more : List String} {there : Location} :
    ∀ {fuel : Nat} {here : Location} {parts : List String},
      t.resolveFrom .use fuel here (parts ++ more) = .ok there →
      ∃ fuel' middle, t.resolveFrom .use fuel here parts = .ok middle ∧
        t.resolveFrom .use fuel' middle more = .ok there := by
  intro fuel
  induction fuel with
  | zero =>
    intro here parts h
    rw [resolveFrom, walk_append] at h
    rw [resolveFrom]
    cases hw : t.walk .use here parts with
    | error _ => rw [hw] at h; cases h
    | ok stop =>
      rw [hw] at h
      cases stop with
      | arrived middle => exact ⟨0, middle, rfl, by rw [resolveFrom]; exact h⟩
      | linked _ _ _ => cases h
  | succ fuel ih =>
    intro here parts h
    rw [resolveFrom, walk_append] at h
    rw [resolveFrom]
    cases hw : t.walk .use here parts with
    | error _ => rw [hw] at h; cases h
    | ok stop =>
      rw [hw] at h
      cases stop with
      | arrived middle => exact ⟨fuel + 1, middle, rfl, by rw [resolveFrom]; exact h⟩
      | linked at_ target rest =>
        simp only [← List.append_assoc] at h
        exact ih h

/-- An empty piece at the end of a path that leads to a directory changes nothing. -/
theorem resolveFrom_concat_empty {t : Tree} {there : Location} {entries : List (String × Tree)}
    (hd : t.get? there = some (.directory entries)) :
    ∀ {fuel : Nat} {here : Location} {parts : List String},
      t.resolveFrom .use fuel here parts = .ok there →
      t.resolveFrom .use fuel here (parts ++ [""]) = .ok there := by
  have stay : t.walk .use there [""] = .ok (.arrived there) := by
    rw [walk, hd]
    rfl
  intro fuel
  induction fuel with
  | zero =>
    intro here parts h
    rw [resolveFrom] at h
    rw [resolveFrom, walk_append]
    cases hw : t.walk .use here parts with
    | error _ => rw [hw] at h; cases h
    | ok stop =>
      rw [hw] at h
      cases stop with
      | arrived _ => cases h; simp only [stay]
      | linked _ _ _ => cases h
  | succ fuel ih =>
    intro here parts h
    rw [resolveFrom] at h
    rw [resolveFrom, walk_append]
    cases hw : t.walk .use here parts with
    | error _ => rw [hw] at h; cases h
    | ok stop =>
      rw [hw] at h
      cases stop with
      | arrived _ => cases h; simp only [stay]
      | linked at_ target rest =>
        simp only [← List.append_assoc]
        exact ih h

/-- A name is followed only in a directory that has an entry for it. -/
theorem directory_of_resolveFrom_name {t : Tree} {fuel : Nat} {here there : Location}
    {name : String} (named : Path.IsName name)
    (h : t.resolveFrom .use fuel here [name] = .ok there) :
    ∃ entries, t.get? here = some (.directory entries) ∧ (entries.lookup name).isSome := by
  have ok : ∃ stop, t.walk .use here [name] = .ok stop := by
    rw [resolveFrom] at h
    cases hw : t.walk .use here [name] with
    | error _ => rw [hw] at h; cases h
    | ok stop => exact ⟨stop, rfl⟩
  obtain ⟨stop, hw⟩ := ok
  rw [walk] at hw
  cases hg : t.get? here with
  | none => rw [hg] at hw; cases hw
  | some node =>
    rw [hg] at hw
    cases node with
    | file _ => cases hw
    | link _ => cases hw
    | directory entries =>
      refine ⟨entries, rfl, ?_⟩
      cases hl : entries.lookup name with
      | some _ => rfl
      | none =>
        simp only [named.1, if_neg named.2, hl, List.isEmpty_nil, Purpose.allowsFree,
          Bool.and_false, Bool.false_eq_true, if_false] at hw
        split at hw <;> cases hw

/-- **The directory before the last name lists it.** -/
theorem find_child {t : Tree} {p : Path} {name : String} {node : Tree} (named : Path.IsName name)
    (h : t.find (p.child name) = .ok node) :
    ∃ entries, t.find p = .ok (.directory entries) ∧ (entries.lookup name).isSome := by
  obtain ⟨there, hr, _⟩ := Outcome.bind_eq_ok.mp h
  unfold resolve at hr
  cases href : refusal? (p.child name) with
  | some _ => rw [href] at hr; cases hr
  | none =>
    rw [href] at hr
    cases rooted : p.rooted with
    | true =>
      have hr' : t.resolveFrom .use maxLinks [] (p.openParts ++ [name]) = .ok there := by
        simp only [Path.child, rooted, if_true] at hr
        exact hr
      obtain ⟨fuel, middle, hm, hn⟩ := resolveFrom_append hr'
      obtain ⟨entries, hd, hl⟩ := directory_of_resolveFrom_name named hn
      refine ⟨entries, ?_, hl⟩
      have whole : t.resolve .use p = .ok middle := by
        unfold resolve
        simp only [refusal?_of_child href, rooted, if_true]
        rcases p.parts_eq with e | e
        · rw [e, hm]
        · rw [e, resolveFrom_concat_empty hd hm]
      refine Outcome.bind_eq_ok.mpr ⟨middle, whole, ?_⟩
      simp only [hd]
    | false =>
      simp only [Path.child, rooted, Bool.false_eq_true, if_false] at hr
      cases hr

end Tree

namespace Files

/-- A directory lists the names of its entries. -/
theorem mem_listNames {t : Tree} {p : Path} {entries : List (String × Tree)}
    (h : t.find p = .ok (.directory entries)) {name : String} :
    name ∈ listNames t p ↔ name ∈ entries.map Prod.fst := by
  have names : t.names p = .ok
      (sortBy (fun a b => Text.before a.toList b.toList) (entries.map Prod.fst)) := by
    unfold Tree.names
    rw [h]
    rfl
  unfold listNames
  rw [names]
  exact (sortBy_perm _ _).mem_iff

/-- **What is there by name is listed.** -/
theorem mem_listNames_of_find {t : Tree} {p : Path} {name : String} {node : Tree}
    (named : Path.IsName name) (h : t.find (p.child name) = .ok node) : name ∈ listNames t p := by
  obtain ⟨entries, hd, hl⟩ := Tree.find_child named h
  obtain ⟨entry, hm, he⟩ := List.lookup_isSome_iff.mp hl
  exact (mem_listNames hd).mpr (List.mem_map.mpr ⟨entry, hm, (beq_iff_eq.mp he).symm⟩)

/-- A listing that has a name is that of something found. -/
theorem exists_find_of_mem_listNames {t : Tree} {p : Path} {name : String}
    (listed : name ∈ listNames t p) : ∃ node, t.find p = .ok node := by
  unfold listNames at listed
  cases names : t.names p with
  | error _ =>
    rw [names] at listed
    cases listed
  | ok _ =>
    obtain ⟨node, found, _⟩ := Outcome.bind_eq_ok.mp names
    exact ⟨node, found⟩

end Files

end GpuManagement
