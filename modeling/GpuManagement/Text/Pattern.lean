import GpuManagement.Text.Numeral
import GpuManagement.Text.Split

/-!
# Names with a number in them

A pattern is a text in which each `#` stands for a run of digits. A name that fits a pattern has an
index: the number that the first run writes. A run may hold digits of any script, though only ASCII
digits write a number.

Names are matched by a library of regular expressions, which is a parameter here. A pattern becomes
the text of an expression from the beginning of a name to its end: what stands around the marks is
escaped, so that it stands for itself, and each mark becomes a group of digits.
-/

namespace GpuManagement.Text

/-- What is used of a library of regular expressions. -/
structure ExpressionLibrary where
  /-- The expressions that are compiled. -/
  Expression : Type
  /-- The text that stands for a text itself in an expression. -/
  escape : List Char → List Char
  /-- The expression that a text writes, unless the library refuses it. -/
  compile? : List Char → Option Expression
  /-- What the first group takes of a name; none when the name does not match, or without groups. -/
  firstGroup? : Expression → List Char → Option (List Char)

/-- The text of a group that takes a run of digits. -/
def digitsGroup : List Char := ['(', '\\', 'd', '+', ')']

namespace ExpressionLibrary

/-- The text of the expression for a pattern. -/
def source (lib : ExpressionLibrary) (pattern : List Char) : List Char :=
  '^' :: joinWith digitsGroup ((splitWhere (· = '#') pattern).map lib.escape) ++ ['$']

/-- The index of a name, if what the first group takes is a number of 32 bits. -/
def indexIn? (lib : ExpressionLibrary) (e : lib.Expression) (name : List Char) : Option UInt32 :=
  (lib.firstGroup? e name).bind (readU32? 10)

end ExpressionLibrary

/-- The name that a pattern gives for an index. -/
def atIndex (pattern : List Char) (index : UInt32) : List Char :=
  replaceChar '#' (decimal index.toNat) pattern

/-- Whether a pattern has a `#`. -/
def isIndexed (pattern : List Char) : Bool := pattern.contains '#'

end GpuManagement.Text
