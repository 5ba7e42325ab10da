import GpuManagement.Files.Read

/-!
# The configuration word of a counter

An event is described by assignments to named fields, and every field has a place in the
configuration word of the counter. The word holds each value at the place of its field.
-/

namespace GpuManagement

open Text

/-- A value and the bit its field begins at. -/
structure FieldValue where
  value : UInt64
  start : UInt8
  deriving DecidableEq, Repr

namespace FieldValue

/-- The place that a text `word:first-last` or `word:bit` gives to a field: its first bit, and the
number of its bits. -/
def placeOf (text : List Char) : Outcome (UInt8 × UInt8) :=
  let malformed : Outcome (UInt8 × UInt8) := .error (.malformed "perf format" (.content text))
  match cut (· = ':') (trim text) with
  | none => malformed
  | some (_, range) =>
    let (first, last) := (cut (· = '-') range).getD (range, range)
    match readU32? 10 (trim first), readU32? 10 (trim last) with
    | some first, some last =>
      if last.toNat < first.toNat ∨ 0xFF < last.toNat ∨ 0xFF < last.toNat - first.toNat + 1 then
        .fail .unexpectedSize
      else .ok (first.toUInt8, (last - first + 1).toUInt8)
    | _, _ => malformed

/-- A name and the value that is assigned to it. A name alone is assigned one. -/
def assignment (text : List Char) : Outcome (List Char × UInt64) :=
  let (name, value) := (cut (· = '=') text).getD (text, ['1'])
  match Files.hexNumber? value with
  | some value => .ok (trim name, value)
  | none => .error (.malformed "perf event" (.badAssignment text))

/-- The assignments of an event, which commas separate. -/
def assignments (text : List Char) : Outcome (List (List Char × UInt64)) :=
  ((splitWhere (· = ',') (trim text)).filter fun piece => piece ≠ []).mapM assignment

/-- The word with every value at its place. -/
def assemble (fields : List FieldValue) : UInt64 :=
  fields.foldl (fun word f => word ||| (f.value <<< f.start.toUInt64)) 0

end FieldValue

end GpuManagement
