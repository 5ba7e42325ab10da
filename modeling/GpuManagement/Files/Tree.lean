import GpuManagement.Data.Sort
import GpuManagement.Files.Bytes
import GpuManagement.Files.Fault
import GpuManagement.Files.Path

/-!
# File trees

The system shows its devices as a tree of directories, files and symbolic links. A location is the
list of names from the root to a node, no links on the way; a path is followed to a location by
`Tree.resolve`, which follows links as the system does. Reading changes nothing, `write` replaces
the content of one file and nothing else, and `create` adds what was not there.
-/

namespace GpuManagement

/-- A node of the tree; a directory lists its entries by name. -/
inductive Tree where
  | file (content : Bytes)
  | directory (entries : List (String × Tree))
  | link (target : String)
  deriving Repr

/-- The names from the root to a node. -/
abbrev Location := List String

namespace Tree

/-! ## Nodes by location -/

def get? : Tree → Location → Option Tree
  | node, [] => some node
  | .directory entries, name :: rest =>
    match entries.lookup name with
    | some node => get? node rest
    | none => none
  | _, _ :: _ => none

/-- The tree with the node at a location changed by `f`, where there is one. -/
def modify (f : Tree → Tree) : Tree → Location → Tree
  | node, [] => f node
  | .directory entries, name :: rest =>
    .directory (entries.map fun entry =>
      if entry.1 = name then (entry.1, modify f entry.2 rest) else entry)
  | node, _ :: _ => node

/-- Whether the node at a location is a directory. -/
def isDirectoryAt (t : Tree) (location : Location) : Bool :=
  match t.get? location with
  | some (.directory _) => true
  | _ => false

/-! ## Following a path -/

/-- Where a walk along names comes to: its end, or a link on the way. -/
inductive Stop where
  | arrived (location : Location)
  /-- A link in the directory `at_`, and the names still to follow after its target. -/
  | linked (at_ : Location) (target : String) (rest : List String)

/-- What a path is followed for. -/
inductive Purpose where
  /-- To use what is there. -/
  | use
  /-- To look at what is there; a link at the end is looked at itself. -/
  | inspect
  /-- To fill a file, which need not be there yet. -/
  | fill
  /-- To put something where nothing is. -/
  | make
  deriving DecidableEq, Repr

/-- Whether a link at the end of the path is followed. -/
def Purpose.followsLast : Purpose → Bool
  | use | fill => true
  | inspect | make => false

/-- Whether the path may end in a name that its directory does not have. -/
def Purpose.allowsFree : Purpose → Bool
  | fill | make => true
  | use | inspect => false

/-- The greatest number of bytes in a name. -/
def maxNameBytes : Nat := 255

/-- The greatest number of bytes in a path. -/
def maxPathBytes : Nat := 4095

/-- Walks along names from a location up to the end or to the first link to follow. A name is
looked up only in a directory, so what stands in the way is found before the name is too long. The
tree shows nothing above its root. -/
def walk (t : Tree) (purpose : Purpose) (here : Location) : List String → Except Fault Stop
  | [] => .ok (.arrived here)
  | part :: rest =>
    match t.get? here with
    | some (.directory entries) =>
      if Path.isStill part then walk t purpose here rest
      else if part = ".." then
        if here.isEmpty then .error .noEntry else walk t purpose here.dropLast rest
      else if maxNameBytes < part.utf8ByteSize then .error .nameTooLong
      else
        match entries.lookup part with
        | none =>
          if rest.isEmpty && purpose.allowsFree then .ok (.arrived (here ++ [part]))
          else .error .noEntry
        | some (.link target) =>
          if rest.isEmpty && !purpose.followsLast then .ok (.arrived (here ++ [part]))
          else .ok (.linked here target rest)
        | some _ => walk t purpose (here ++ [part]) rest
    | some _ => .error .notDirectory
    | none => .error .noEntry

/-- Walks along names through at most `fuel` links. -/
def resolveFrom (t : Tree) (purpose : Purpose) :
    Nat → Location → List String → Except Fault Location
  | fuel, here, parts =>
    match walk t purpose here parts with
    | .error fault => .error fault
    | .ok (.arrived location) => .ok location
    | .ok (.linked at_ target rest) =>
      match fuel with
      | 0 => .error .tooManyLinks
      | fuel + 1 =>
        let path := Path.ofText target
        resolveFrom t purpose fuel (if path.rooted then [] else at_) (path.parts ++ rest)

/-- How many links one path may lead through. -/
def maxLinks : Nat := 40

/-- Why a path is refused before it is followed. -/
def refusal? (p : Path) : Option Fault :=
  if p.parts.any fun part => part.toList.contains '\x00' then some .nulInPath
  else if maxPathBytes < p.text.utf8ByteSize then some .nameTooLong
  else none

/-- The location a path leads to. A path that does not start at the root leads nowhere. -/
def resolve (t : Tree) (purpose : Purpose) (p : Path) : Except Fault Location :=
  match refusal? p with
  | some fault => .error fault
  | none => if p.rooted then resolveFrom t purpose maxLinks [] p.parts else .error .noEntry

def find (t : Tree) (p : Path) : Except Fault Tree := do
  let location ← t.resolve .use p
  match t.get? location with
  | some node => .ok node
  | none => .error .noEntry

/-! ## Questions -/

/-- Whether a path leads to a node. -/
def exists_ (t : Tree) (p : Path) : Bool :=
  match t.find p with
  | .ok _ => true
  | .error _ => false

/-- Whether a path leads to a directory. -/
def isDirectory (t : Tree) (p : Path) : Bool :=
  match t.find p with
  | .ok (.directory _) => true
  | _ => false

/-- The target of the link a path names. -/
def readLink (t : Tree) (p : Path) : Except Fault String := do
  let location ← t.resolve .inspect p
  match t.get? location with
  | some (.link target) => .ok target
  | some _ => .error .invalidArgument
  | none => .error .noEntry

/-- The names in a directory, in the order of their code points. -/
def names (t : Tree) (p : Path) : Except Fault (List String) := do
  match ← t.find p with
  | .directory entries =>
    .ok (sortBy (fun a b => Text.before a.toList b.toList) (entries.map Prod.fst))
  | _ => .error .notDirectory

def content (t : Tree) (p : Path) : Except Fault Bytes := do
  match ← t.find p with
  | .file content => .ok content
  | _ => .error .isDirectory

/-! ## Changes -/

/-- The tree with new content in the regular file a path leads to. -/
def write (t : Tree) (p : Path) (content : Bytes) : Except Fault Tree := do
  let location ← t.resolve .use p
  match t.get? location with
  | some (.file _) => .ok (t.modify (fun _ => .file content) location)
  | some _ => .error .isDirectory
  | none => .error .noEntry

/-- The tree with a node at a location where nothing is; its directory has to be there. -/
def insert (t : Tree) (location : Location) (node : Tree) : Tree :=
  match location.getLast? with
  | none => t
  | some name =>
    t.modify
      (fun
        | .directory entries => .directory (entries ++ [(name, node)])
        | other => other)
      location.dropLast

/-- The tree with a directory where a path leads; one that is there already stays. -/
def makeDirectory (t : Tree) (p : Path) : Except Fault Tree :=
  if t.isDirectory p then .ok t
  else do
    let location ← t.resolve .make p
    match t.get? location with
    | none => .ok (t.insert location (.directory []))
    | some _ => .error .alreadyThere

/-- The tree with a directory at each step from the ones done on, and whether all are there. The
first that cannot be made ends the making, and those before it stay. -/
def makeSteps (t : Tree) (done : List String) : List String → Bool × Tree
  | [] => (true, t)
  | step :: rest =>
    match t.makeDirectory (Path.root (done ++ [step])) with
    | .ok t => makeSteps t (done ++ [step]) rest
    | .error _ => (false, t)

/-- The tree with all directories that a path leads through and to, and whether all are there. -/
def makeDirectories (t : Tree) (p : Path) : Bool × Tree :=
  if t.isDirectory p then (true, t)
  else if (refusal? p).isSome then (false, t)
  else makeSteps t [] p.steps

/-- The tree with a file or a link put where a path leads. A file takes the place of a file, also
through a link; nothing else is replaced. -/
def place (t : Tree) (p : Path) (node : Tree) : Except Fault Tree := do
  let purpose := match node with
    | .file _ => Purpose.fill
    | _ => Purpose.make
  let location ← t.resolve purpose p
  match t.get? location, node with
  | none, _ => .ok (t.insert location node)
  | some (.file _), .file _ => .ok (t.modify (fun _ => node) location)
  | some _, _ => .error .alreadyThere

/-- The tree without the node at a location. -/
def prune : Tree → Location → Tree
  | node, [] => node
  | .directory entries, [name] => .directory (entries.filter fun entry => entry.1 ≠ name)
  | .directory entries, name :: rest =>
    .directory (entries.map fun entry =>
      if entry.1 = name then (entry.1, prune entry.2 rest) else entry)
  | node, _ :: _ => node

/-- The tree with a node put where a path leads, after the directories on the way were made. What
cannot be done is left undone. -/
def create (t : Tree) (p : Path) (node : Tree) : Tree :=
  match node, p.parent? with
  | .directory _, _ => (t.makeDirectories p).2
  | _, none => t
  | _, some parent =>
    match t.makeDirectories parent with
    | (false, t) => t
    | (true, t) => (t.place p node).toOption.getD t

/-- Whether a path leads to a location by the name that the node has in its own directory. -/
def namesItself (t : Tree) (p : Path) (location : Location) : Bool :=
  p.endsInName && (t.resolve .inspect p.trimmed).toOption == some location

/-- The tree without the node a path names; a link is removed and not what it leads to. A directory
that the path reaches by a link or by dots only loses its entries. -/
def remove (t : Tree) (p : Path) : Tree :=
  match t.resolve .inspect p with
  | .error _ => t
  | .ok location =>
    if t.isDirectoryAt location && !t.namesItself p location then
      t.modify (fun _ => .directory []) location
    else t.prune location

end Tree

end GpuManagement
