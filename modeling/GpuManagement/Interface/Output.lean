import GpuManagement.Events.Record
import GpuManagement.Status

/-!
# Results in the caller's memory

A caller hands over room for a list or for a text and says how much there is. As much of the result
is written as fits, nothing beyond, and the status tells whether something is missing. Here a result
is the part that is written; `cellsAfter` puts it into what the room held before.
-/

namespace GpuManagement

/-! ## Lists -/

/-- What a caller who asked for a list is given. -/
structure FilledList (α : Type) where
  status : Status
  /-- The number of items, of those written where there was room. -/
  count : Nat
  written : List α
  deriving DecidableEq, Repr

namespace FilledList

/-- The greatest count that a caller is told. -/
def maxCount : Nat := UInt32.size - 1

/-- A list for a caller with room for `capacity` items; a caller without room is told how many
there are, as far as a count of 32 bits goes. -/
def ofValues {α : Type} (hasRoom : Bool) (capacity : Nat) (values : List α) : FilledList α :=
  if hasRoom then
    let written := values.take capacity
    ⟨if written.length < values.length then .insufficientSize else .success, written.length,
      written⟩
  else ⟨.success, min values.length maxCount, []⟩

def cellsAfter {α : Type} (f : FilledList α) (cells : List α) : List α :=
  f.written ++ cells.drop f.written.length

end FilledList

/-! ## Texts -/

/-- What a caller who asked for a text is given. -/
structure FilledText where
  status : Status
  written : Bytes
  deriving DecidableEq, Repr

namespace FilledText

/-- A text and a zero byte at its end for a caller with room for `capacity` bytes. Without any room
nothing is written. -/
def ofText (capacity : Nat) (text : Bytes) : FilledText :=
  if capacity = 0 then ⟨.invalidArgs, []⟩
  else
    let kept := text.take (capacity - 1)
    ⟨if kept.length < text.length then .insufficientSize else .success, kept ++ [0]⟩

def cellsAfter (f : FilledText) (cells : Bytes) : Bytes := f.written ++ cells.drop f.written.length

/-- The text that was written, up to the zero byte. -/
def text (f : FilledText) : Bytes := f.written.takeWhile (· ≠ 0)

end FilledText

/-! ## Events -/

/-- An event as it is handed over, its message in a field of fixed width. -/
structure EventData where
  device : UInt32
  event : UInt32
  message : Bytes
  deriving DecidableEq, Repr

namespace EventData

/-- The width of the message field; the last byte is always zero. -/
def messageWidth : Nat := EventRecord.maxMessage + 1

/-- An event with its message filled up with zeros. -/
def ofNotification (n : EventNotification) : EventData :=
  let kept := (Bytes.ofText (String.ofList n.message)).take EventRecord.maxMessage
  ⟨n.device, n.event, kept ++ List.replicate (messageWidth - kept.length) 0⟩

/-- The message up to the first zero. -/
def text (e : EventData) : Bytes := e.message.takeWhile (· ≠ 0)

end EventData

end GpuManagement
