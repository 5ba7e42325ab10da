import GpuManagement.Proofs.Text.Pattern
import GpuManagement.Text.Matcher

/-!
# The library that runs is standard

Reading the text of parts gives their pieces back (`Matcher.pieces?_write`), so all that is left is
how pieces are matched. `Takes` says it without rows of marks: a character takes itself, a group a
run of digits, one after another. A mark is there exactly where the rest of the name is taken so
(`fits_iff`), and the run of the first group is one that such a match has (`firstRun?_sound`,
`firstRun?_complete`).

The expression for a pattern with one mark is never too large (`ExpressionLibrary.builtIn_accepts`).
-/

namespace GpuManagement.Text

namespace Matcher

/-! ## Reading what is written -/

theorem escape_cons (c : Char) (cs : List Char) :
    escape (c :: cs) = (if special.contains c then ['\\', c] else [c]) ++ escape cs :=
  List.flatMap_cons

/-- A character that has no special meaning is none of those. -/
theorem ne_of_not_special {c d : Char} (plain : ¬ special.contains c = true)
    (hd : special.contains d = true) : c ≠ d := by
  rintro rfl
  exact plain hd

/-- A special character is read as itself behind a backslash. -/
theorem pieces?_escaped {c : Char} (hc : special.contains c = true) (rest : List Char) :
    pieces? ('\\' :: c :: rest) = (pieces? rest).map (Piece.char c :: ·) := by
  rw [pieces?.eq_def]
  show (if '\\' = '$' then _ else if '\\' = '(' then _ else if '\\' = '\\' then
    if special.contains c = true then _ else none else _) = _
  rw [if_neg (by decide), if_neg (by decide), if_pos rfl, if_pos hc]

/-- Any other character is read as itself. -/
theorem pieces?_plain {c : Char} (plain : ¬ special.contains c = true) (rest : List Char) :
    pieces? (c :: rest) = (pieces? rest).map (Piece.char c :: ·) := by
  rw [pieces?.eq_def]
  show (if c = '$' then _ else if c = '(' then _ else if c = '\\' then _ else
    if special.contains c = true then none else _) = _
  rw [if_neg (ne_of_not_special plain (by decide)), if_neg (ne_of_not_special plain (by decide)),
    if_neg (ne_of_not_special plain (by decide)), if_neg plain]

/-- An escaped text is read as its characters. -/
theorem pieces?_escape (cs rest : List Char) :
    pieces? (escape cs ++ rest) = (pieces? rest).map (cs.map Piece.char ++ ·) := by
  induction cs with
  | nil =>
    show pieces? rest = (pieces? rest).map id
    rw [Option.map_id_fun, id]
  | cons c cs ih =>
    have first : pieces? (escape (c :: cs) ++ rest) =
        (pieces? (escape cs ++ rest)).map (Piece.char c :: ·) := by
      rw [escape_cons]
      by_cases hc : special.contains c = true
      · rw [if_pos hc]
        exact pieces?_escaped hc _
      · rw [if_neg hc]
        exact pieces?_plain hc _
    rw [first, ih, Option.map_map]
    rfl

/-- The text of a group is read as one. -/
theorem pieces?_digitsGroup (rest : List Char) :
    pieces? (digitsGroup ++ rest) = (pieces? rest).map (Piece.digits :: ·) := by
  rw [pieces?.eq_def]
  show (if '(' = '$' then _ else if '(' = '(' then _ else _) = _
  rw [if_neg (by decide), if_pos rfl]
  rfl

/-- The pieces of parts one after another. -/
def piecesOf : List Part → List Piece
  | [] => []
  | .text cs :: parts => cs.map .char ++ piecesOf parts
  | .digits :: parts => .digits :: piecesOf parts

/-- **What is written for parts is read as their pieces.** -/
theorem pieces?_write (parts : List Part) :
    pieces? (ExpressionLibrary.builtIn.write parts ++ ['$']) = some (piecesOf parts) := by
  induction parts with
  | nil => rfl
  | cons part parts ih =>
    cases part with
    | text cs =>
      show pieces? (escape cs ++ _ ++ ['$']) = _
      rw [List.append_assoc, pieces?_escape, ih]
      rfl
    | digits =>
      show pieces? (digitsGroup ++ _ ++ ['$']) = _
      rw [List.append_assoc, pieces?_digitsGroup, ih]
      rfl

/-- The expression of parts is their pieces, if there are not too many groups. -/
theorem compile?_write (parts : List Part) :
    compile? ('^' :: ExpressionLibrary.builtIn.write parts ++ ['$']) =
      (some (piecesOf parts)).filter fun pieces => pieces.count .digits ≤ maxGroups := by
  rw [List.cons_append, compile?, pieces?_write]

/-! ## Matches by pieces -/

/-- The names that pieces match from end to end, with what the groups take in order. -/
inductive Takes : List Piece → List Char → List (List Char) → Prop where
  | nil : Takes [] [] []
  | char {pieces : List Piece} {name : List Char} {groups : List (List Char)} (c : Char)
      (rest : Takes pieces name groups) : Takes (.char c :: pieces) (c :: name) groups
  | digits {pieces : List Piece} {name : List Char} {groups : List (List Char)} {run : List Char}
      (nonempty : run ≠ []) (digits : ∀ c ∈ run, isDecimalDigit c = true)
      (rest : Takes pieces name groups) :
      Takes (.digits :: pieces) (run ++ name) (run :: groups)

variable {pieces : List Piece} {parts : List Part} {name run : List Char}
variable {groups : List (List Char)}

/-- The characters of a text take the text. -/
theorem takes_text_iff {cs : List Char} :
    Takes (cs.map .char ++ pieces) name groups ↔
      ∃ rest, name = cs ++ rest ∧ Takes pieces rest groups := by
  induction cs generalizing name with
  | nil => exact ⟨fun h => ⟨name, rfl, h⟩, fun ⟨_, e, h⟩ => e ▸ h⟩
  | cons c cs ih =>
    constructor
    · intro h
      cases h with
      | char _ h =>
        obtain ⟨rest, rfl, taken⟩ := ih.mp h
        exact ⟨rest, rfl, taken⟩
    · rintro ⟨rest, rfl, taken⟩
      exact .char c (ih.mpr ⟨rest, rfl, taken⟩)

/-- Parts match what their pieces take. -/
theorem matches_iff_takes : Matches parts name groups ↔ Takes (piecesOf parts) name groups := by
  constructor
  · intro h
    induction h with
    | nil => exact .nil
    | text cs _ ih => exact takes_text_iff.mpr ⟨_, rfl, ih⟩
    | digits nonempty digits _ ih => exact .digits nonempty digits ih
  · intro h
    induction parts generalizing name groups with
    | nil =>
      cases h
      exact .nil
    | cons part parts ih =>
      cases part with
      | text cs =>
        obtain ⟨rest, rfl, taken⟩ := takes_text_iff.mp h
        exact .text cs (ih taken)
      | digits =>
        cases h with
        | digits nonempty digits taken => exact .digits nonempty digits (ih taken)

/-! ## Marks -/

/-- A run of digits takes one digit, or one and what a run takes behind it. -/
theorem takes_digits_cons_iff {d : Char} {ds : List Char} :
    (∃ groups, Takes (.digits :: pieces) (d :: ds) groups) ↔
      ((∃ groups, Takes pieces ds groups) ∨ ∃ groups, Takes (.digits :: pieces) ds groups) ∧
        isDecimalDigit d = true := by
  constructor
  · rintro ⟨groups, h⟩
    generalize whole : d :: ds = name at h
    cases h with
    | @digits _ name groups run nonempty digits rest =>
      obtain ⟨c, more, rfl⟩ := List.exists_cons_of_ne_nil nonempty
      rw [List.cons_append, List.cons.injEq] at whole
      obtain ⟨rfl, rfl⟩ := whole
      obtain ⟨hd, digits⟩ := List.forall_mem_cons.mp digits
      refine ⟨?_, hd⟩
      cases more with
      | nil => exact .inl ⟨groups, rest⟩
      | cons c more => exact .inr ⟨_, .digits (List.cons_ne_nil _ _) digits rest⟩
  · rintro ⟨⟨groups, rest⟩ | ⟨groups, rest⟩, hd⟩
    · exact ⟨_, .digits (List.cons_ne_nil d []) (List.forall_mem_singleton.mpr hd) rest⟩
    · cases rest with
      | @digits _ _ _ run nonempty digits rest =>
        exact ⟨_, .digits (List.cons_ne_nil d run) (List.forall_mem_cons.mpr ⟨hd, digits⟩) rest⟩

/-- No name is taken by a group when nothing is left of it. -/
theorem not_takes_digits_nil : ¬ Takes (.digits :: pieces) [] groups := by
  intro h
  generalize empty : ([] : List Char) = name at h
  cases h with
  | digits nonempty => exact nonempty (List.append_eq_nil_iff.mp empty.symm).1

/-- **A mark is where the rest of a name is taken** by the rest of the pieces. -/
theorem fits_iff : fits pieces name = true ↔ ∃ groups, Takes pieces name groups := by
  induction pieces generalizing name with
  | nil =>
    rw [fits_nil, List.isEmpty_iff]
    constructor
    · rintro rfl
      exact ⟨[], .nil⟩
    · rintro ⟨groups, h⟩
      cases h
      rfl
  | cons piece pieces ih =>
    cases piece with
    | char c =>
      cases name with
      | nil =>
        rw [fits_cons_nil]
        exact ⟨fun h => (by cases h), fun ⟨_, h⟩ => (by cases h)⟩
      | cons d ds =>
        rw [fits_char, Bool.and_eq_true, beq_iff_eq, ih]
        constructor
        · rintro ⟨rfl, groups, h⟩
          exact ⟨groups, .char d h⟩
        · rintro ⟨groups, h⟩
          cases h with
          | char _ h => exact ⟨rfl, groups, h⟩
    | digits =>
      -- on the digits of the run, each of which may be the last one
      induction name with
      | nil =>
        rw [fits_cons_nil]
        exact ⟨fun h => (by cases h), fun ⟨_, h⟩ => absurd h not_takes_digits_nil⟩
      | cons d ds ihRun =>
        rw [fits_digits, Bool.and_eq_true, Bool.or_eq_true, ih, ihRun, takes_digits_cons_iff]

/-- The longest run leads to a mark. -/
theorem longestRun_sound (h : longestRun name (fitMarks name pieces) = some run) :
    ∃ rest, name = run ++ rest ∧ run ≠ [] ∧ (∀ c ∈ run, isDecimalDigit c = true) ∧
      fits pieces rest = true := by
  induction name generalizing run with
  | nil =>
    rw [longestRun] at h
    · cases h
    · intro _ _ _ _ h
      cases h
  | cons d ds ih =>
    rw [fitMarks_cons, longestRun] at h
    obtain ⟨hd, h⟩ := Option.ite_none_right_eq_some.mp h
    cases later : longestRun ds (fitMarks ds pieces) with
    | some more =>
      rw [later] at h
      cases h
      obtain ⟨rest, rfl, _, digits, fit⟩ := ih later
      exact ⟨rest, rfl, List.cons_ne_nil _ _, List.forall_mem_cons.mpr ⟨hd, digits⟩, fit⟩
    | none =>
      rw [later] at h
      obtain ⟨fit, h⟩ := Option.ite_none_right_eq_some.mp h
      cases h
      exact ⟨ds, rfl, List.cons_ne_nil _ _, List.forall_mem_singleton.mpr hd, fit⟩

/-- There is a longest run when the group takes one. -/
theorem longestRun_complete (fit : fits (.digits :: pieces) name = true) :
    ∃ run, longestRun name (fitMarks name pieces) = some run := by
  induction name with
  | nil =>
    rw [fits_cons_nil] at fit
    cases fit
  | cons d ds ih =>
    rw [fits_digits, Bool.and_eq_true, Bool.or_eq_true] at fit
    obtain ⟨one, hd⟩ := fit
    rw [fitMarks_cons, longestRun, if_pos hd]
    cases later : longestRun ds (fitMarks ds pieces) with
    | some more => exact ⟨d :: more, rfl⟩
    | none =>
      have none_longer : ¬ fits (.digits :: pieces) ds = true := by
        intro longer
        obtain ⟨run, found⟩ := ih longer
        rw [later] at found
        cases found
      exact ⟨[d], if_pos (one.resolve_right none_longer)⟩

/-! ## The first group -/

/-- The run of the first group is one that some match has. -/
theorem firstRun?_sound (h : firstRun? pieces name = some run) :
    ∃ groups, Takes pieces name (run :: groups) := by
  induction pieces generalizing name with
  | nil => cases h
  | cons piece pieces ih =>
    cases piece with
    | digits =>
      rw [firstRun?] at h
      obtain ⟨rest, rfl, nonempty, digits, fit⟩ := longestRun_sound h
      obtain ⟨groups, taken⟩ := fits_iff.mp fit
      exact ⟨groups, .digits nonempty digits taken⟩
    | char c =>
      cases name with
      | nil => cases h
      | cons d ds =>
        rw [firstRun?] at h
        obtain ⟨same, h⟩ := Option.ite_none_right_eq_some.mp h
        obtain ⟨groups, taken⟩ := ih h
        exact ⟨groups, same ▸ .char d taken⟩

/-- A match with a group has a run of the first group. -/
theorem firstRun?_complete (h : Takes pieces name (run :: groups)) :
    ∃ taken, firstRun? pieces name = some taken := by
  generalize all : run :: groups = found at h
  induction h with
  | nil => cases all
  | char c _ ih =>
    obtain ⟨taken, first⟩ := ih all
    refine ⟨taken, ?_⟩
    rw [firstRun?, if_pos rfl, first]
  | digits nonempty digits rest =>
    rw [firstRun?]
    exact longestRun_complete (fits_iff.mpr ⟨_, .digits nonempty digits rest⟩)

end Matcher

open Matcher

namespace ExpressionLibrary

/-- **The library that runs is standard.** -/
theorem builtIn_isStandard : builtIn.IsStandard where
  sound := by
    intro parts e name run compiled taken
    obtain ⟨same, _⟩ := Option.filter_eq_some_iff.mp ((compile?_write parts).symm.trans compiled)
    cases same
    obtain ⟨groups, found⟩ := firstRun?_sound taken
    exact ⟨groups, matches_iff_takes.mpr found⟩
  complete := by
    intro parts e name run groups compiled found
    obtain ⟨same, _⟩ := Option.filter_eq_some_iff.mp ((compile?_write parts).symm.trans compiled)
    cases same
    exact firstRun?_complete (matches_iff_takes.mp found)

/-- The library that runs compiles the expression of every family. -/
theorem builtIn_accepts {pattern : List Char} (family : IsFamily pattern) :
    builtIn.Accepts pattern := by
  obtain ⟨front, back, rfl, plain, plain', _⟩ := family.exists_sides
  have texts : ∀ cs : List Char, (cs.map Piece.char).count .digits = 0 := by
    intro cs
    refine List.count_eq_zero_of_not_mem fun h => ?_
    obtain ⟨c, _, h⟩ := List.mem_map.mp h
    cases h
  have one : (piecesOf [.text front, .digits, .text back]).count .digits = 1 := by
    simp only [piecesOf, List.count_append, List.count_cons_self, texts, List.count_nil]
  refine ⟨piecesOf [.text front, .digits, .text back], ?_⟩
  rw [source_mark plain plain']
  refine (compile?_write _).trans (Option.filter_eq_some_iff.mpr ⟨rfl, ?_⟩)
  rw [one]
  rfl

end ExpressionLibrary

end GpuManagement.Text
