import GpuManagement.Files.Read

/-!
# Small reports of a card

Error counts, retired memory pages and bus traffic, each a text of a few fields.
-/

namespace GpuManagement

open Text

/-- Memory errors that were corrected and that were not. -/
structure ErrorCount where
  correctable : UInt64
  uncorrectable : UInt64
  deriving DecidableEq, Repr

/-- The value of a field `key: value`, from the first line that gives the key a number. -/
def countField? (key : List Char) (ls : List (List Char)) : Option UInt64 :=
  ls.findSome? fun line =>
    match cut (· = ':') line with
    | some (name, value) => if trim name = key then readU64? 10 (trim value) else none
    | none => none

/-- The counts in the lines of an error file; both must be there. -/
def ErrorCount.ofLines (ls : List (List Char)) : Outcome ErrorCount :=
  match countField? ['c', 'e'] ls, countField? ['u', 'e'] ls with
  | some correctable, some uncorrectable => .ok ⟨correctable, uncorrectable⟩
  | _, _ => .fail .unexpectedData

/-- What became of a damaged memory page. -/
inductive PageStatus where
  | reserved
  | pending
  | unreservable
  deriving DecidableEq, Repr

def PageStatus.number : PageStatus → Nat
  | reserved => 0
  | pending => 1
  | unreservable => 2

/-- A memory page taken out of use. -/
structure RetiredPage where
  address : UInt64
  size : UInt64
  status : PageStatus
  deriving DecidableEq, Repr

/-- The page in a line `address : size : letter`; a fourth field is not looked at. -/
def RetiredPage.read? (line : List Char) : Option RetiredPage :=
  match (splitWhere (· = ':') line).map trim with
  | address :: size :: letter :: _ =>
    match Files.hexNumber? address, Files.hexNumber? size with
    | some address, some size =>
      if letter = ['R'] then some ⟨address, size, .reserved⟩
      else if letter = ['P'] then some ⟨address, size, .pending⟩
      else if letter = ['F'] then some ⟨address, size, .unreservable⟩
      else none
    | _, _ => none
  | _ => none

/-- The page that a line of the page table writes. -/
def RetiredPage.ofLine (line : List Char) : Outcome RetiredPage :=
  match RetiredPage.read? line with
  | some page => .ok page
  | none => .error (.malformed "bad page table" (.content line))

/-- The pages in the lines of the page table; blank lines do not count. -/
def RetiredPage.ofLines (ls : List (List Char)) : Outcome (List RetiredPage) :=
  (ls.filter fun line => !allBlank line).mapM RetiredPage.ofLine

/-- Traffic over the bus in the last second. -/
structure Throughput where
  sent : UInt64
  received : UInt64
  maxPacket : UInt64
  deriving DecidableEq, Repr

/-- A product held to 64 bits, the greatest number standing for all above it. -/
def saturatingProduct (a b : UInt64) : UInt64 :=
  UInt64.ofNat (min (a.toNat * b.toNat) (UInt64.size - 1))

/-- The traffic in a line of exactly three numbers: packets sent, packets received and the size of
a packet. -/
def Throughput.ofLine (line : List Char) : Outcome Throughput :=
  match (words line).mapM (readU64? 10) with
  | some [sent, received, maxPacket] =>
    .ok ⟨saturatingProduct sent maxPacket, saturatingProduct received maxPacket, maxPacket⟩
  | _ => .fail .unexpectedData

/-- The blocks in a line of the feature file: the hexadecimal number after its last colon. -/
def featureMask (line : List Char) : Outcome UInt64 :=
  match Files.hexNumber? ((splitWhere (· = ':') line).getLastD []) with
  | some mask => .ok mask
  | none => .fail .unexpectedData

def percentage (value : UInt64) : Outcome UInt32 :=
  if 100 < value.toNat then .fail .unexpectedData else .ok value.toUInt32

/-- A number of `bits` bits. -/
def narrowed (bits : Nat) (value : UInt64) : Outcome Nat :=
  if value.toNat < 1 <<< bits then .ok value.toNat else .fail .unexpectedData

end GpuManagement
