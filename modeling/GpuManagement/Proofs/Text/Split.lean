import GpuManagement.Text.Blank
import Mathlib.Data.List.Basic

/-!
# Cutting what was joined

Pieces without the separator come back when the text that joins them is cut at it
(`splitWhere_joinWith`), and a text is cut once where its part before the first separator ends
(`cut_append`). What is blank around a text is trimmed, and nothing of the text itself if it begins
and ends with something else (`trim_between`), so that before and behind a character that is no
blank trimming is done apart (`trim_append_cons`); a word among blanks is found as it is
(`firstWord_between`).
-/

namespace GpuManagement.Text

variable {p : Char → Bool} {c : Char} {front back piece : List Char}

/-! ## Separators -/

/-- A text without a separator is one piece. -/
theorem splitWhere_of_none (h : ∀ c ∈ piece, p c = false) : splitWhere p piece = [piece] := by
  induction piece with
  | nil => rfl
  | cons d piece ih =>
    obtain ⟨hd, h⟩ := List.forall_mem_cons.mp h
    rw [splitWhere, hd, if_neg Bool.false_ne_true, ih h]

/-- A piece ends at the first separator. -/
theorem splitWhere_append (h : ∀ c ∈ piece, p c = false) (hc : p c = true) (rest : List Char) :
    splitWhere p (piece ++ c :: rest) = piece :: splitWhere p rest := by
  induction piece with
  | nil => rw [List.nil_append, splitWhere, if_pos hc]
  | cons d piece ih =>
    obtain ⟨hd, h⟩ := List.forall_mem_cons.mp h
    rw [List.cons_append, splitWhere, hd, if_neg Bool.false_ne_true, ih h]

/-- **Pieces that are joined come back** when the text is cut at the separator. -/
theorem splitWhere_joinWith (hc : p c = true) :
    ∀ {pieces : List (List Char)}, pieces ≠ [] → (∀ piece ∈ pieces, ∀ d ∈ piece, p d = false) →
      splitWhere p (joinWith [c] pieces) = pieces
  | [], nonempty, _ => absurd rfl nonempty
  | [piece], _, plain => splitWhere_of_none (plain piece List.mem_cons_self)
  | piece :: next :: pieces, _, plain => by
    obtain ⟨first, rest⟩ := List.forall_mem_cons.mp plain
    show splitWhere p (piece ++ [c] ++ joinWith [c] (next :: pieces)) = _
    rw [List.append_assoc, List.singleton_append, splitWhere_append first hc,
      splitWhere_joinWith hc (List.cons_ne_nil _ _) rest]

/-- A text without a separator is not cut. -/
theorem cut_of_none (h : ∀ c ∈ front, p c = false) : cut p front = none := by
  induction front with
  | nil => rfl
  | cons d front ih =>
    obtain ⟨hd, h⟩ := List.forall_mem_cons.mp h
    rw [cut, hd, if_neg Bool.false_ne_true, ih h]
    rfl

/-- A text is cut at its first separator. -/
theorem cut_append (h : ∀ c ∈ front, p c = false) (hc : p c = true) (back : List Char) :
    cut p (front ++ c :: back) = some (front, back) := by
  induction front with
  | nil => rw [List.nil_append, cut, if_pos hc]
  | cons d front ih =>
    obtain ⟨hd, h⟩ := List.forall_mem_cons.mp h
    rw [List.cons_append, cut, hd, if_neg Bool.false_ne_true, ih h]
    rfl

/-- A text without the character is not cut at it. -/
theorem cut_at_of_not_mem (h : c ∉ front) : cut (· = c) front = none :=
  cut_of_none fun _ hd => decide_eq_false (ne_of_mem_of_not_mem hd h)

/-- A text is cut at the first place of a character. -/
theorem cut_at_append (h : c ∉ front) (back : List Char) :
    cut (· = c) (front ++ c :: back) = some (front, back) :=
  cut_append (fun _ hd => decide_eq_false (ne_of_mem_of_not_mem hd h)) (decide_eq_true rfl) back

/-- The parts of a text that is cut: what comes before the first separator, which is all of it where
there is none, and what comes after. -/
theorem getD_cut (p : Char → Bool) (cs : List Char) :
    (cut p cs).getD (cs, []) =
      (cs.takeWhile fun c => !p c, (cs.dropWhile fun c => !p c).tail) := by
  induction cs with
  | nil => rfl
  | cons c cs ih =>
    rw [cut]
    cases hc : p c with
    | true => simp [hc]
    | false =>
      rw [List.takeWhile_cons_of_pos (by rw [hc]; rfl),
        List.dropWhile_cons_of_pos (by rw [hc]; rfl), if_neg Bool.false_ne_true]
      cases h : cut p cs with
      | none =>
        rw [h] at ih
        obtain ⟨front, back⟩ := Prod.mk.inj ih
        simp only [Option.map_none, Option.getD_none, ← front, ← back]
      | some parts =>
        rw [h] at ih
        obtain rfl := ih
        rfl

/-! ## Blanks around a text -/

/-- The text neither begins nor ends with a blank. -/
def IsTrimmed (cs : List Char) : Prop :=
  (∀ c ∈ cs.head?, isBlank c = false) ∧ ∀ c ∈ cs.getLast?, isBlank c = false

-- named, since the instance that is found may go through all characters there are
instance (cs : List Char) : Decidable (IsTrimmed cs) :=
  @instDecidableAnd _ _ (Option.decidableForallMem _) (Option.decidableForallMem _)

variable {cs before after : List Char}

theorem isTrimmed_of_none (h : ∀ c ∈ cs, isBlank c = false) : IsTrimmed cs :=
  ⟨fun c hc => h c (List.mem_of_mem_head? hc), fun c hc => h c (List.mem_of_getLast? hc)⟩

theorem trimStart_append (blank : allBlank before = true) (cs : List Char) :
    trimStart (before ++ cs) = trimStart cs := by
  unfold trimStart
  induction before with
  | nil => rfl
  | cons c before ih =>
    obtain ⟨hc, blank⟩ := Bool.and_eq_true_iff.mp blank
    rw [List.cons_append, List.dropWhile_cons, if_pos hc, ih blank]

theorem trimStart_of_head? (h : ∀ c ∈ cs.head?, isBlank c = false) : trimStart cs = cs := by
  unfold trimStart
  cases cs with
  | nil => rfl
  | cons c cs =>
    rw [List.dropWhile_cons, if_neg (by rw [h c rfl]; exact Bool.false_ne_true)]

/-- Trimming the end is trimming the start from behind. -/
theorem trimEnd_eq (cs : List Char) : trimEnd cs = (trimStart cs.reverse).reverse := rfl

/-- **What is blank around a text is trimmed**, and nothing else. -/
theorem trim_between (hb : allBlank before = true) (trimmed : IsTrimmed cs)
    (ha : allBlank after = true) : trim (before ++ cs ++ after) = cs := by
  unfold trim
  rw [List.append_assoc, trimStart_append hb]
  have behind : allBlank after.reverse = true := by
    unfold allBlank at ha ⊢
    rw [List.all_reverse, ha]
  cases cs with
  | nil =>
    have all : trimStart after = [] := by
      rw [← List.append_nil after, trimStart_append ha]
      rfl
    rw [List.nil_append, all]
    rfl
  | cons c cs =>
    rw [trimStart_of_head? (by exact trimmed.1), trimEnd_eq, List.reverse_append,
      trimStart_append behind, trimStart_of_head?, List.reverse_reverse]
    rw [List.head?_reverse]
    exact trimmed.2

theorem trim_of_isTrimmed (trimmed : IsTrimmed cs) : trim cs = cs := by
  have h : trim ([] ++ cs ++ []) = cs := trim_between rfl trimmed rfl
  rwa [List.nil_append, List.append_nil] at h

/-- A text that is trimmed at both ends is trimmed. -/
theorem IsTrimmed.append (hf : IsTrimmed front) (first : front ≠ []) (hb : IsTrimmed back)
    (last : back ≠ []) : IsTrimmed (front ++ piece ++ back) := by
  constructor
  · rw [List.append_assoc, List.head?_append_of_ne_nil _ first]
    exact hf.1
  · rw [List.getLast?_append_of_ne_nil _ last]
    exact hb.2

/-- After the first word comes a blank or nothing, so trimming what follows trims that blank too. -/
theorem trim_tail_dropWhile (cs : List Char) :
    trim (cs.dropWhile fun c => !isBlank c).tail = trim (cs.dropWhile fun c => !isBlank c) := by
  cases h : cs.dropWhile fun c => !isBlank c with
  | nil => rfl
  | cons c rest =>
    have blank := List.head?_dropWhile_not (fun c => !isBlank c) cs
    rw [h] at blank
    have first : allBlank [c] = true := by simpa [allBlank] using blank
    exact congrArg trimEnd (trimStart_append first rest).symm

/-- Blanks at the start end before a character that is none. -/
theorem trimStart_append_cons (hc : isBlank c = false) (front back : List Char) :
    trimStart (front ++ c :: back) = trimStart front ++ c :: back := by
  unfold trimStart
  induction front with
  | nil =>
    rw [List.nil_append, List.dropWhile_cons, hc]
    rfl
  | cons d front ih =>
    rw [List.cons_append, List.dropWhile_cons, List.dropWhile_cons, ih]
    split <;> rfl

/-- Blanks at the end begin after a character that is none. -/
theorem trimEnd_append_cons (hc : isBlank c = false) (front back : List Char) :
    trimEnd (front ++ c :: back) = front ++ c :: trimEnd back := by
  rw [trimEnd_eq, trimEnd_eq, List.reverse_append, List.reverse_cons, List.append_assoc,
    List.singleton_append, trimStart_append_cons hc, List.reverse_append, List.reverse_cons,
    List.reverse_reverse, List.append_assoc, List.singleton_append]

/-- **A text is trimmed on the two sides** of a character that is no blank. -/
theorem trim_append_cons (hc : isBlank c = false) (front back : List Char) :
    trim (front ++ c :: back) = trimStart front ++ c :: trimEnd back := by
  unfold trim
  rw [trimStart_append_cons hc, trimEnd_append_cons hc]

theorem isTrimmed_trim (cs : List Char) : IsTrimmed (trim cs) := by
  have first := List.head?_dropWhile_not isBlank cs
  unfold trim
  cases h : trimStart cs with
  | nil => exact isTrimmed_of_none fun _ hc => (by cases hc)
  | cons c rest =>
    rw [show cs.dropWhile isBlank = _ from h] at first
    constructor
    · rw [← List.nil_append (c :: rest), trimEnd_append_cons first]
      rintro _ ⟨⟩
      exact first
    · have last := List.head?_dropWhile_not isBlank (c :: rest).reverse
      unfold trimEnd
      intro d hd
      rw [List.getLast?_reverse] at hd
      rw [hd] at last
      exact last

/-- Only blanks are lost at the end. -/
theorem exists_trimEnd_append (cs : List Char) :
    ∃ after, cs = trimEnd cs ++ after ∧ allBlank after = true := by
  refine ⟨(cs.reverse.takeWhile isBlank).reverse, ?_, ?_⟩
  · unfold trimEnd
    rw [← List.reverse_append, List.takeWhile_append_dropWhile, List.reverse_reverse]
  · unfold allBlank
    rw [List.all_reverse]
    exact List.all_takeWhile

/-- Only blanks are lost around what is left. -/
theorem exists_around_trim (cs : List Char) :
    ∃ before after, cs = before ++ trim cs ++ after ∧ allBlank before = true ∧
      allBlank after = true := by
  obtain ⟨after, e, blank⟩ := exists_trimEnd_append (trimStart cs)
  refine ⟨cs.takeWhile isBlank, after, ?_, List.all_takeWhile, blank⟩
  unfold trim
  rw [List.append_assoc, ← e, trimStart, List.takeWhile_append_dropWhile]

/-- A text whose end is trimmed already is trimmed to the same. -/
theorem trim_trimEnd (cs : List Char) : trim (trimEnd cs) = trim cs := by
  obtain ⟨tail, e, light⟩ := exists_trimEnd_append cs
  obtain ⟨before, after, whole, hb, ha⟩ := exists_around_trim (trimEnd cs)
  have blank : allBlank (after ++ tail) = true := by
    unfold allBlank at *
    rw [List.all_append, ha, light]
    rfl
  have h := trim_between hb (isTrimmed_trim (trimEnd cs)) blank
  rw [← List.append_assoc, ← whole, ← e] at h
  exact h.symm

theorem joinWith_ne_nil {pieces : List (List Char)} (h : piece ≠ []) :
    joinWith [c] (piece :: pieces) ≠ [] := by
  cases pieces with
  | nil => exact h
  | cons _ _ => exact fun e => h (List.append_eq_nil_iff.mp (List.append_eq_nil_iff.mp e).1).1

/-- Pieces that are trimmed make up a text that is trimmed. -/
theorem isTrimmed_joinWith {pieces : List (List Char)}
    (whole : ∀ piece ∈ pieces, piece ≠ [] ∧ IsTrimmed piece) :
    IsTrimmed (joinWith [c] pieces) := by
  induction pieces with
  | nil => exact isTrimmed_of_none fun _ hc => (by cases hc)
  | cons piece pieces ih =>
    obtain ⟨⟨nonempty, trimmed⟩, whole⟩ := List.forall_mem_cons.mp whole
    cases pieces with
    | nil => exact trimmed
    | cons next pieces =>
      exact trimmed.append nonempty (ih whole) (joinWith_ne_nil (whole next List.mem_cons_self).1)

/-! ## Words -/

/-- Blanks before the words are no part of them. -/
theorem words_append (blank : allBlank before = true) (cs : List Char) :
    words (before ++ cs) = words cs := by
  induction before with
  | nil => rfl
  | cons c before ih =>
    obtain ⟨hc, blank⟩ := Bool.and_eq_true_iff.mp blank
    rw [← ih blank, words, words, List.cons_append, splitWhere, if_pos hc,
      List.filter_cons_of_neg (by simp)]

/-- A word among blanks is the first one. -/
theorem firstWord_between (hb : allBlank before = true) (nonempty : cs ≠ [])
    (plain : ∀ c ∈ cs, isBlank c = false) (ha : allBlank after = true) :
    firstWord (before ++ cs ++ after) = cs := by
  have first : (splitWhere isBlank (cs ++ after)).head? = some cs := by
    cases after with
    | nil =>
      rw [List.append_nil, splitWhere_of_none plain]
      rfl
    | cons d after =>
      rw [splitWhere_append plain (Bool.and_eq_true_iff.mp ha).1]
      rfl
  obtain ⟨pieces, e⟩ := List.head?_eq_some_iff.mp first
  unfold firstWord
  rw [List.append_assoc, words_append hb, words, e,
    List.filter_cons_of_pos (by simpa using nonempty)]
  rfl

end GpuManagement.Text
