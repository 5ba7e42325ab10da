/-!
# Cutting text

Text is taken apart as a list of characters, so that every rule is a recursion on the text it
reads. `splitWhere` cuts at each separator and loses nothing but the separators; `cut` cuts at the
first one only.
-/

namespace GpuManagement.Text

/-- The pieces of a text between the characters that satisfy `p`; there is always one piece. -/
def splitWhere (p : Char → Bool) : List Char → List (List Char)
  | [] => [[]]
  | c :: cs =>
    if p c then [] :: splitWhere p cs
    else
      match splitWhere p cs with
      | [] => [[c]]
      | piece :: pieces => (c :: piece) :: pieces

/-- The text before and after the first character that satisfies `p`, if there is one. -/
def cut (p : Char → Bool) : List Char → Option (List Char × List Char)
  | [] => none
  | c :: cs =>
    if p c then some ([], cs)
    else (cut p cs).map fun parts => (c :: parts.1, parts.2)

/-- The last character is dropped when it is `c`. -/
def dropLastIf (c : Char) (cs : List Char) : List Char :=
  if cs.getLast? = some c then cs.dropLast else cs

/-- The lines of a text: each ends at a line feed, a carriage return before it goes with it, and
a last line needs no line feed when it is not empty. -/
def lines (cs : List Char) : List (List Char) :=
  let pieces := splitWhere (· = '\n') cs
  pieces.dropLast.map (dropLastIf '\r') ++ (pieces.getLast?.toList.filter (· ≠ []))

/-- Whether `word` occurs in the text as consecutive characters. -/
def contains (word : List Char) : List Char → Bool
  | [] => word.isEmpty
  | c :: cs => word.isPrefixOf (c :: cs) || contains word cs

/-- Every occurrence of `c` is replaced by `by_`. -/
def replaceChar (c : Char) (by_ : List Char) (cs : List Char) : List Char :=
  cs.flatMap fun d => if d = c then by_ else [d]

/-- Texts joined with a separator between neighbours. -/
def joinWith (separator : List Char) : List (List Char) → List Char
  | [] => []
  | [piece] => piece
  | piece :: pieces => piece ++ separator ++ joinWith separator pieces

/-- The order of texts by code point: the first difference decides, and a text comes after its
own beginnings. -/
def before : List Char → List Char → Bool
  | _, [] => false
  | [], _ :: _ => true
  | a :: as, b :: bs => if a = b then before as bs else a.toNat < b.toNat

theorem splitWhere_ne_nil (p : Char → Bool) (cs : List Char) : splitWhere p cs ≠ [] := by
  cases cs with
  | nil => simp [splitWhere]
  | cons c cs =>
    rw [splitWhere]
    split
    · simp
    · split <;> simp

theorem splitWhere_pieces (p : Char → Bool) (cs : List Char) :
    ∀ piece ∈ splitWhere p cs, ∀ c ∈ piece, p c = false := by
  induction cs with
  | nil => simp [splitWhere]
  | cons d cs ih =>
    intro piece hp c hc
    rw [splitWhere] at hp
    split at hp
    · rcases List.mem_cons.1 hp with rfl | hp
      · cases hc
      · exact ih piece hp c hc
    · rename_i hd
      split at hp
      · rename_i hn
        exact absurd hn (splitWhere_ne_nil p cs)
      · rename_i q qs hq
        rcases List.mem_cons.1 hp with rfl | hp
        · rcases List.mem_cons.1 hc with rfl | hc
          · simpa using hd
          · exact ih q (by simp [hq]) c hc
        · exact ih piece (by simp [hq, hp]) c hc

end GpuManagement.Text
