import GpuManagement.Proofs.Text.Numeral
import GpuManagement.Proofs.Text.Split
import GpuManagement.Text.DecimalDigit
import GpuManagement.Text.Pattern

/-!
# Names of a family

What is relied on of a library of regular expressions is `ExpressionLibrary.IsStandard`: an escaped
text stands for itself, a group of digits takes a run of digits of any script, parts match one after
another, and `^` and `$` tie an expression to the two ends of a name. `Matches` says this without
saying how a match is found.

A pattern with a single `#` names a family of files, one for each index. Whatever library is used,
`indexIn?_eq_some_iff` says what an index means there: the name is the pattern with a run of digits
in place of the mark, and the run writes the index. In particular a name that is made for an index
has that index (`indexIn?_atIndex`), so whoever writes such a name and whoever looks for the family
agree.
-/

namespace GpuManagement.Text

/-! ## Standard libraries -/

/-- A part of an expression: a text that stands for itself, or a group of digits. -/
inductive Part where
  | text (cs : List Char)
  | digits

/-- The names that parts match from end to end, with what the groups take in order. -/
inductive Matches : List Part → List Char → List (List Char) → Prop where
  | nil : Matches [] [] []
  | text {parts : List Part} {name : List Char} {groups : List (List Char)} (cs : List Char)
      (rest : Matches parts name groups) : Matches (.text cs :: parts) (cs ++ name) groups
  | digits {parts : List Part} {name : List Char} {groups : List (List Char)} {run : List Char}
      (nonempty : run ≠ []) (digits : ∀ c ∈ run, isDecimalDigit c = true)
      (rest : Matches parts name groups) :
      Matches (.digits :: parts) (run ++ name) (run :: groups)

namespace ExpressionLibrary

/-- The text of the parts of an expression one after another. -/
def write (lib : ExpressionLibrary) : List Part → List Char
  | [] => []
  | .text cs :: parts => lib.escape cs ++ lib.write parts
  | .digits :: parts => digitsGroup ++ lib.write parts

/-- The library compiles the expression for a pattern. Of well-formed expressions it may refuse those
that are too large. -/
def Accepts (lib : ExpressionLibrary) (pattern : List Char) : Prop :=
  ∃ e, lib.compile? (lib.source pattern) = some e

/-- What is documented of a library: an expression from end to end that it compiles matches the
names that its parts match, and its first group takes what it takes in a match. -/
structure IsStandard (lib : ExpressionLibrary) : Prop where
  sound : ∀ parts e name run, lib.compile? ('^' :: lib.write parts ++ ['$']) = some e →
    lib.firstGroup? e name = some run → ∃ groups, Matches parts name (run :: groups)
  complete : ∀ parts e name run groups, lib.compile? ('^' :: lib.write parts ++ ['$']) = some e →
    Matches parts name (run :: groups) → ∃ taken, lib.firstGroup? e name = some taken

end ExpressionLibrary

/-- A text, a group and a text match what has a run of digits between the two texts. -/
theorem matches_between_iff {front back name : List Char} {groups : List (List Char)} :
    Matches [.text front, .digits, .text back] name groups ↔
      ∃ run, groups = [run] ∧ name = front ++ run ++ back ∧ run ≠ [] ∧
        ∀ c ∈ run, isDecimalDigit c = true := by
  constructor
  · intro h
    cases h with
    | text _ h =>
      cases h with
      | @digits _ _ _ run nonempty digits h =>
        cases h with
        | text _ h =>
          cases h
          refine ⟨run, rfl, ?_, nonempty, digits⟩
          rw [List.append_nil, List.append_assoc]
  · rintro ⟨run, rfl, rfl, nonempty, digits⟩
    have whole := Matches.text front (.digits nonempty digits (.text back .nil))
    rwa [List.append_nil, ← List.append_assoc] at whole

section Mark

variable {lib : ExpressionLibrary} {front back : List Char}

/-- The expression for a pattern with one mark has the texts around it as parts. -/
theorem source_mark (plain : '#' ∉ front) (plain' : '#' ∉ back) :
    lib.source (front ++ '#' :: back) =
      '^' :: lib.write [.text front, .digits, .text back] ++ ['$'] := by
  have sides : splitWhere (· = '#') (front ++ '#' :: back) = [front, back] := by
    rw [splitWhere_append (fun c hc => decide_eq_false (ne_of_mem_of_not_mem hc plain))
        (decide_eq_true rfl),
      splitWhere_of_none fun c hc => decide_eq_false (ne_of_mem_of_not_mem hc plain')]
  have pieces : joinWith digitsGroup [lib.escape front, lib.escape back] =
      lib.write [.text front, .digits, .text back] := by
    show _ ++ digitsGroup ++ _ = lib.escape front ++ (digitsGroup ++ (lib.escape back ++ []))
    rw [List.append_nil, List.append_assoc]
    rfl
  rw [ExpressionLibrary.source, sides, List.map_cons, List.map_cons, List.map_nil, pieces]

/-- **What the group of a mark takes** of a name: all that is between the two texts. -/
theorem ExpressionLibrary.IsStandard.firstGroup?_eq_some_iff (standard : lib.IsStandard)
    (plain : '#' ∉ front) (plain' : '#' ∉ back) {e : lib.Expression}
    (compiled : lib.compile? (lib.source (front ++ '#' :: back)) = some e)
    {name run : List Char} :
    lib.firstGroup? e name = some run ↔
      name = front ++ run ++ back ∧ run ≠ [] ∧ ∀ c ∈ run, isDecimalDigit c = true := by
  rw [source_mark plain plain'] at compiled
  have taken : ∀ {run}, lib.firstGroup? e name = some run →
      name = front ++ run ++ back ∧ run ≠ [] ∧ ∀ c ∈ run, isDecimalDigit c = true := by
    intro run h
    obtain ⟨groups, found⟩ := standard.sound _ e name run compiled h
    obtain ⟨run', same, whole⟩ := matches_between_iff.mp found
    cases same
    exact whole
  refine ⟨taken, fun whole => ?_⟩
  obtain ⟨run', h⟩ := standard.complete _ e name run [] compiled
    (matches_between_iff.mpr ⟨run, rfl, whole⟩)
  -- the name is cut in one way only, so that what is taken can only be this run
  have same : front ++ run' ++ back = front ++ run ++ back := (taken h).1.symm.trans whole.1
  rw [List.append_cancel_left (List.append_cancel_right same)] at h
  exact h

end Mark

/-! ## Families -/

/-- The pattern names a family of files: it has one mark. -/
def IsFamily (pattern : List Char) : Prop := pattern.count '#' = 1

instance (pattern : List Char) : Decidable (IsFamily pattern) :=
  inferInstanceAs (Decidable (_ = _))

/-- The pattern of a family has a mark. -/
theorem IsFamily.isIndexed {pattern : List Char} (family : IsFamily pattern) :
    isIndexed pattern = true := by
  unfold Text.isIndexed
  rw [List.contains_iff_mem]
  exact List.count_pos_iff.mp (by rw [family]; exact Nat.one_pos)

/-- A text without the character stays as it is. -/
theorem replaceChar_of_not_mem {c : Char} {cs : List Char} (h : c ∉ cs) (new : List Char) :
    replaceChar c new cs = cs := by
  induction cs with
  | nil => rfl
  | cons d cs ih =>
    have hd : d ≠ c := (List.ne_of_not_mem_cons h).symm
    show (if d = c then new else [d]) ++ replaceChar c new cs = d :: cs
    rw [if_neg hd, ih (List.not_mem_of_not_mem_cons h)]
    rfl

/-- What comes in place of a mark comes between the texts on its two sides. -/
theorem replaceChar_append_mark {front back : List Char} (plain : '#' ∉ front) (plain' : '#' ∉ back)
    (run : List Char) : replaceChar '#' run (front ++ '#' :: back) = front ++ run ++ back := by
  unfold replaceChar
  rw [List.flatMap_append, List.flatMap_cons, if_pos rfl]
  show replaceChar '#' run front ++ (run ++ replaceChar '#' run back) = _
  rw [replaceChar_of_not_mem plain, replaceChar_of_not_mem plain', List.append_assoc]

theorem count_append_mark {front back : List Char} (plain : '#' ∉ front) (plain' : '#' ∉ back) :
    (front ++ '#' :: back).count '#' = 1 := by
  rw [List.count_append, List.count_cons_self, List.count_eq_zero_of_not_mem plain,
    List.count_eq_zero_of_not_mem plain']

/-- The text on the two sides of the mark of a family. -/
theorem IsFamily.exists_sides {pattern : List Char} (family : IsFamily pattern) :
    ∃ front back, pattern = front ++ '#' :: back ∧ '#' ∉ front ∧ '#' ∉ back ∧
      ∀ run, replaceChar '#' run pattern = front ++ run ++ back := by
  have marked : '#' ∈ pattern := List.contains_iff_mem.mp family.isIndexed
  obtain ⟨front, back, rfl, plain⟩ := List.eq_append_cons_of_mem marked
  have plain' : '#' ∉ back := by
    intro h
    have one : (front ++ '#' :: back).count '#' = 1 := family
    rw [List.count_append, List.count_cons_self, List.count_eq_zero_of_not_mem plain] at one
    have more := List.count_pos_iff.mpr h
    omega
  exact ⟨front, back, rfl, plain, plain', replaceChar_append_mark plain plain'⟩

/-- **The index of a name**: the name is the pattern with a run of digits in place of its mark, and
the run writes the index. -/
theorem indexIn?_eq_some_iff {lib : ExpressionLibrary} (standard : lib.IsStandard)
    {pattern : List Char} (family : IsFamily pattern) {e : lib.Expression}
    (compiled : lib.compile? (lib.source pattern) = some e) {name : List Char} {i : UInt32} :
    lib.indexIn? e name = some i ↔
      ∃ run, name = replaceChar '#' run pattern ∧ run ≠ [] ∧
        (∀ c ∈ run, isDecimalDigit c = true) ∧ readU32? 10 run = some i := by
  obtain ⟨front, back, rfl, plain, plain', replaced⟩ := family.exists_sides
  unfold ExpressionLibrary.indexIn?
  rw [Option.bind_eq_some_iff]
  simp only [replaced, standard.firstGroup?_eq_some_iff plain plain' compiled, and_assoc]

theorem isDecimalDigit_of_isDigit {c : Char} (h : isDigit c = true) :
    isDecimalDigit c = true := by
  obtain ⟨low, high⟩ := isDigit_iff.mp h
  unfold isDecimalDigit
  refine List.any_eq_true.mpr ⟨0x30, List.mem_cons_self, ?_⟩
  rw [Bool.and_eq_true, decide_eq_true_eq, decide_eq_true_eq]
  exact ⟨low, by omega⟩

/-- The name made for an index has that index. -/
theorem indexIn?_atIndex {lib : ExpressionLibrary} (standard : lib.IsStandard)
    {pattern : List Char} (family : IsFamily pattern) {e : lib.Expression}
    (compiled : lib.compile? (lib.source pattern) = some e) (i : UInt32) :
    lib.indexIn? e (atIndex pattern i) = some i :=
  (indexIn?_eq_some_iff standard family compiled).mpr
    ⟨decimal i.toNat, rfl, decimal_ne_nil _,
      fun _ hc => isDecimalDigit_of_isDigit (isDigit_of_mem_decimal hc), readU32?_decimal i⟩

/-- A name made for an index has a digit in it. -/
theorem exists_isDigit_atIndex {pattern : List Char} (family : IsFamily pattern) (i : UInt32) :
    ∃ c ∈ atIndex pattern i, isDigit c = true := by
  obtain ⟨front, back, _, _, _, replaced⟩ := family.exists_sides
  obtain ⟨c, rest, e⟩ := List.exists_cons_of_ne_nil (decimal_ne_nil i.toNat)
  have hc : c ∈ decimal i.toNat := e ▸ List.mem_cons_self
  refine ⟨c, ?_, isDigit_of_mem_decimal hc⟩
  unfold atIndex
  rw [replaced]
  exact List.mem_append_left _ (List.mem_append_right _ hc)

end GpuManagement.Text
