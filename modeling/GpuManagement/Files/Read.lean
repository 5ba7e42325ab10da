import GpuManagement.Error
import GpuManagement.Files.Tree
import GpuManagement.Data.Table
import GpuManagement.Text.Blank

/-!
# Reading and writing attribute files

An attribute is a small file with a text in it: a word, a number, a few lines, or a list of named
numbers. Every function here fails with the path it was asked for. A missing file and an empty one
are different failures, and only a file that exists can be written.
-/

namespace GpuManagement.Files

open Text

/-- A refusal of the system for a path. -/
def atPath {α : Type} (p : Path) : Except Fault α → Outcome α
  | .ok value => .ok value
  | .error fault => .error (.access p fault)

def readContent (t : Tree) (p : Path) : Outcome Bytes := atPath p (t.content p)

/-- The text of a regular file; an empty file has the empty text. -/
def readText (t : Tree) (p : Path) : Outcome (List Char) := do
  let content ← readContent t p
  match content.text? with
  | some text => .ok text.toList
  | none => .error (.access p .notUtf8)

/-- The first word of a file, empty when the file has none. -/
def readWord (t : Tree) (p : Path) : Outcome (List Char) := do
  let text ← readText t p
  .ok (firstWord text)

/-- The first line of a file without its end. -/
def readLine (t : Tree) (p : Path) : Outcome (List Char) := do
  let text ← readText t p
  .ok ((lines text).headD [])

/-- The lines of a file without the blank ones at the end. -/
def readLines (t : Tree) (p : Path) : Outcome (List (List Char)) := do
  let text ← readText t p
  .ok (trimBlankLines (lines text))

/-- At most `limit` bytes from the start of a file. -/
def readBytes (t : Tree) (p : Path) (limit : Nat) : Outcome Bytes := do
  let content ← readContent t p
  .ok (content.take limit)

/-- A hexadecimal number of 64 bits, blanks around it and a leading `0x` allowed. -/
def hexNumber? (cs : List Char) : Option UInt64 := readU64? 16 (dropHexMark (trim cs))

/-- The value that `read` finds in the first word of a file; no word at all is `noData`. -/
def readWordAs {α : Type} (read : List Char → Option α) (problem : List Char → Malformation)
    (t : Tree) (p : Path) : Outcome α := do
  let word ← readWord t p
  if word.isEmpty then .fail .noData
  else
    match read word with
    | some value => .ok value
    | none => .error (.malformedFile p (problem word))

/-- The decimal number that is the first word of a file. -/
def readDecimal (t : Tree) (p : Path) : Outcome UInt64 :=
  readWordAs (readU64? 10) .notAnInteger t p

/-- The signed decimal number that is the first word of a file. -/
def readSigned (t : Tree) (p : Path) : Outcome Int :=
  readWordAs (readSigned? 64) .notAnInteger t p

/-- The hexadecimal number that is the first word of a file. -/
def readHex (t : Tree) (p : Path) : Outcome UInt64 :=
  readWordAs hexNumber? .notHexadecimal t p

/-- New text for an existing regular file. -/
def writeText (t : Tree) (p : Path) (text : String) : Outcome Tree :=
  atPath p (t.write p (Bytes.ofText text))

/-- The key that a line of a property file defines, and its value: the first two words, if the
second one is a number. -/
def property? (line : List Char) : Option (String × UInt64) :=
  match words line with
  | key :: value :: _ => (readU64? 10 value).map fun n => (String.ofList key, n)
  | _ => none

/-- The values that a text defines; of two lines for one key the later counts. -/
def properties (text : List Char) : Table String UInt64 :=
  Table.ofEntries ((lines text).filterMap property?)

/-- The named numbers in a property file. A file without any counts as missing. -/
def readProperties (t : Tree) (p : Path) : Outcome (Table String UInt64) := do
  let text ← readText t p
  let table := properties text
  if table.isEmpty then .error (.access p .noEntry) else .ok table

/-- The names in a directory in the order of their code points, none when it cannot be listed. -/
def listNames (t : Tree) (p : Path) : List String :=
  match t.names p with
  | .ok names => names
  | .error _ => []

/-- The number that a name writes in decimal, if it fits 32 bits. -/
def entryNumber? (name : String) : Option UInt32 :=
  if isNumber name.toList then readU32? 10 name.toList else none

/-- The entries of a directory with a number for a name, by ascending number. -/
def numberedEntries (t : Tree) (p : Path) : List (UInt32 × Path) :=
  sortBy (fun a b => decide (a.1.toNat < b.1.toNat))
    ((listNames t p).filterMap fun name => (entryNumber? name).map fun n => (n, p.child name))

/-- The number after a fixed beginning of a name. -/
def numberAfter? (start : List Char) (name : List Char) : Option UInt32 :=
  match start.isPrefixOf? name with
  | some rest => if isNumber rest then readU32? 10 rest else none
  | none => none

end GpuManagement.Files
