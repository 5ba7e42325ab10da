import GpuManagement.Files.Bytes
import GpuManagement.Text.Blank
import GpuManagement.Text.Numeral

/-!
# Event records

The driver reports an event as a line with a hexadecimal number and a message. A message has room
for sixty-three bytes and is cut before the character that no longer fits.
-/

namespace GpuManagement

open Text

/-- The events that are known. -/
inductive EventKind where
  | vmFault
  | thermalThrottle
  | gpuPreReset
  | gpuPostReset
  deriving DecidableEq, Repr

namespace EventKind

/-- The events in the order of their numbers. -/
def all : List EventKind := [vmFault, thermalThrottle, gpuPreReset, gpuPostReset]

/-- The number of an event; the first one is one. -/
def number (e : EventKind) : Nat := all.idxOf e + 1

def ofNumber? (n : UInt32) : Option EventKind := all.find? fun e => e.number = n.toNat

/-- The bit of an event number in a mask. -/
def maskOf (n : UInt32) : UInt64 := 1 <<< (n.toUInt64 - 1)

/-- The bit of an event in a mask. -/
def mask (e : EventKind) : UInt64 := maskOf (UInt32.ofNat e.number)

end EventKind

/-- What the driver says about an event. -/
structure EventRecord where
  event : UInt32
  message : List Char
  deriving DecidableEq, Repr

namespace EventRecord

/-- A record keeps this many bytes of a message. -/
def maxMessage : Nat := 63

/-- The longest beginning of a text whose UTF-8 form has at most `room` bytes. -/
def fitting : Nat → List Char → List Char
  | _, [] => []
  | room, c :: cs => if c.utf8Size ≤ room then c :: fitting (room - c.utf8Size) cs else []

/-- The record that a line writes, if the line begins with a hexadecimal number. -/
def read? (line : List Char) : Option EventRecord :=
  let line := trim line
  let (number, rest) := (cut isBlank line).getD (line, [])
  (readU32? 16 number).map fun event => ⟨event, fitting maxMessage (trim rest)⟩

/-- The records in bytes that a stream delivered; lines that write none are passed over, and damaged
characters are replaced. -/
def ofBytes (content : Bytes) : List EventRecord := (lines content.lenientText).filterMap read?

end EventRecord

/-- A record with the device it came from. -/
structure EventNotification where
  device : UInt32
  event : UInt32
  message : List Char
  deriving DecidableEq, Repr

end GpuManagement
