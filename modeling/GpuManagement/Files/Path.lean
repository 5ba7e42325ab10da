import GpuManagement.Text.Numeral
import GpuManagement.Text.Split

/-!
# Paths

A path is the list of pieces between its slashes. Pieces are kept as they were written, empty ones
and dots included, because a path is shown in messages as it was given; what the pieces mean is
decided where a path is followed.
-/

namespace GpuManagement

/-- The pieces of a path, and whether it starts at the root. -/
structure Path where
  /-- Whether the path begins with a slash. -/
  rooted : Bool
  /-- What stands between the slashes. -/
  parts : List String
  deriving DecidableEq, Repr

namespace Path

/-- The pieces of a text between its slashes. -/
def pieces (text : String) : List String :=
  (Text.splitWhere (· = '/') text.toList).map String.ofList

def ofText (text : String) : Path :=
  match text.toList with
  | '/' :: rest => ⟨true, pieces (String.ofList rest)⟩
  | _ => ⟨false, pieces text⟩

def text (p : Path) : String :=
  String.ofList ((if p.rooted then ['/'] else []) ++
    Text.joinWith ['/'] (p.parts.map String.toList))

/-- A path that starts at the root, of single names. -/
def root (parts : List String) : Path := ⟨true, parts⟩

/-- The pieces without an empty one at the end, which a slash at the end leaves. -/
def openParts (p : Path) : List String :=
  if p.parts.getLast? = some "" then p.parts.dropLast else p.parts

/-- The entry called `name` in the directory `p`. -/
def child (p : Path) (name : String) : Path := ⟨p.rooted, p.openParts ++ [name]⟩

/-- The entry in `p` named by a number. -/
def childNumber (p : Path) (n : Nat) : Path := p.child (String.ofList (Text.decimal n))

/-- The path `p` continued by a text; one that begins with a slash starts over at the root. -/
def join (p : Path) (text : String) : Path :=
  match text.toList with
  | '/' :: _ => ofText text
  | _ => ⟨p.rooted, p.openParts ++ pieces text⟩

/-- The path with `ending` written right after its last character. -/
def withEnding (p : Path) (ending : String) : Path :=
  match p.parts.getLast? with
  | some last => ⟨p.rooted, p.parts.dropLast ++ [last ++ ending]⟩
  | none => ⟨p.rooted, [ending]⟩

/-! ## What the pieces mean -/

/-- Whether a piece of a path stays where it is. -/
def isStill (part : String) : Bool := part == "" || part == "."

def steps (p : Path) : List String := p.parts.filter fun part => !isStill part

/-- The path one step shorter; a path without steps has none. -/
def parent? (p : Path) : Option Path :=
  if p.steps.isEmpty then none else some ⟨p.rooted, p.steps.dropLast⟩

/-- The path without the empty pieces that slashes at its end leave. -/
def trimmed (p : Path) : Path := ⟨p.rooted, (p.parts.reverse.dropWhile (· == "")).reverse⟩

/-- Whether the path ends in a name, slashes at its end aside. -/
def endsInName (p : Path) : Bool :=
  p.trimmed.parts.getLast?.any fun part => part != "." && part != ".."

/-- The last name of a path: empty pieces and dots at the end do not count, and a step upwards
has no name. -/
def fileName? (p : Path) : Option String :=
  match p.steps.getLast? with
  | some part => if part = ".." then none else some part
  | none => none

end Path

end GpuManagement
