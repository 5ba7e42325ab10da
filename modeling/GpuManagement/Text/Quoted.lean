import GpuManagement.Text.Numeral
import GpuManagement.Text.Unprintable

/-!
# Quoted text

Text inside a message stands between double quotes. A quote and a backslash take a backslash before
them, four control characters have a letter of their own, and every other character that is not
visible is written as its code point in braces.
-/

namespace GpuManagement.Text

/-- The code point of a character in braces, after a backslash and a `u`. -/
def codePointEscape (c : Char) : List Char :=
  ['\\', 'u', '\x7b'] ++ hexPadded 1 c.toNat ++ ['\x7d']

/-- How one character is written inside quotes. -/
def quoteChar (c : Char) : List Char :=
  if c = '\x00' then ['\\', '0']
  else if c = '\t' then ['\\', 't']
  else if c = '\r' then ['\\', 'r']
  else if c = '\n' then ['\\', 'n']
  else if c = '\\' then ['\\', '\\']
  else if c = '"' then ['\\', '"']
  else if isVisible c then [c]
  else codePointEscape c

def quote (cs : List Char) : List Char := ['"'] ++ cs.flatMap quoteChar ++ ['"']

end GpuManagement.Text
