import GpuManagement.Text.Split

/-!
# Blanks and words

Blank characters are those of the Unicode property `White_Space`, which is wider than the ASCII
blanks: a no-break space separates words as a space does, a zero-width space does not.
-/

namespace GpuManagement.Text

/-- The characters of the Unicode property `White_Space`. -/
def isBlank (c : Char) : Bool :=
  let n := c.toNat
  (9 ≤ n && n ≤ 13) || n == 0x20 || n == 0x85 || n == 0xA0 || n == 0x1680 ||
    (0x2000 ≤ n && n ≤ 0x200A) || n == 0x2028 || n == 0x2029 || n == 0x202F || n == 0x205F ||
    n == 0x3000

def trimStart (cs : List Char) : List Char := cs.dropWhile isBlank

def trimEnd (cs : List Char) : List Char := (cs.reverse.dropWhile isBlank).reverse

def trim (cs : List Char) : List Char := trimEnd (trimStart cs)

/-- The maximal runs of characters that are not blank, in order. -/
def words (cs : List Char) : List (List Char) := (splitWhere isBlank cs).filter (· ≠ [])

/-- The first word, or nothing when all is blank. -/
def firstWord (cs : List Char) : List Char := (words cs).headD []

/-- Whether the text has no character but blanks. -/
def allBlank (cs : List Char) : Bool := cs.all isBlank

/-- Lines without the blank ones at the end. -/
def trimBlankLines (ls : List (List Char)) : List (List Char) :=
  (ls.reverse.dropWhile allBlank).reverse

/-- A word is not empty and holds no blank. -/
theorem words_spec {cs word : List Char} (h : word ∈ words cs) :
    word ≠ [] ∧ ∀ c ∈ word, isBlank c = false := by
  have hm := List.mem_filter.1 h
  exact ⟨by simpa using hm.2, splitWhere_pieces isBlank cs word hm.1⟩

end GpuManagement.Text
