import GpuManagement.Interface.Output
import GpuManagement.Proofs.Text.Numeral
import GpuManagement.Proofs.Text.Place
import GpuManagement.Proofs.Text.Split

/-!
# Messages of events

A line is a record when the text before its first blank writes a number of 32 bits in hexadecimal;
what stands after that is the message. A message is kept up to sixty-three bytes, and of the
beginnings of the message that have no more than that the longest is kept (`IsLongest`), so no
character is cut in two and a message that fits is kept whole.

There are two ways to this beginning. `EventRecord.fitting` goes forward and takes characters as
long as there is room. `EventRecord.truncated?` goes down from the limit to the first boundary and
cuts there; it could run past the start, and never does. Both come to the same (`truncated?_eq`).

The record that is handed over has a field of sixty-four bytes for the message. What is kept of a
message fits into it with at least one zero after it (`isStored_ofNotification`).
-/

namespace GpuManagement

open Text

namespace EventRecord

/-! ## The parts of a line -/

/-- The text before the first blank of a line, blanks around the line aside. -/
def numberPart (line : List Char) : List Char := (trim line).takeWhile fun c => !isBlank c

/-- The rest of a line, without the blanks around it. -/
def messagePart (line : List Char) : List Char := trim ((trim line).dropWhile fun c => !isBlank c)

theorem read?_eq (line : List Char) :
    read? line = (readU32? 16 (numberPart line)).map fun event =>
      ⟨event, fitting maxMessage (messagePart line)⟩ := by
  unfold read? messagePart numberPart
  simp only [getD_cut, trim_tail_dropWhile]

theorem read?_eq_some_iff {line : List Char} {r : EventRecord} :
    read? line = some r ↔ WritesUnsigned 16 (numberPart line) r.event.toNat ∧
      r.message = fitting maxMessage (messagePart line) := by
  rw [read?_eq, Option.map_eq_some_iff, ← readU32?_eq_some_iff (by decide) (by decide)]
  constructor
  · rintro ⟨event, h, rfl⟩
    exact ⟨h, rfl⟩
  · rintro ⟨h, message⟩
    exact ⟨r.event, h, by rw [← message]⟩

/-! ## The longest beginning that fits -/

/-- The message is the longest beginning of the text that has at most so many bytes. -/
structure IsLongest (room : Nat) (message text : List Char) : Prop where
  begins : message <+: text
  fits : (Bytes.ofText (String.ofList message)).length ≤ room
  longest : ∀ other, other <+: text → (Bytes.ofText (String.ofList other)).length ≤ room →
    other <+: message

theorem fitting_begins (room : Nat) (text : List Char) : fitting room text <+: text := by
  induction text generalizing room with
  | nil => exact List.nil_prefix
  | cons c text ih =>
    rw [fitting]
    split
    · exact List.cons_prefix_cons.mpr ⟨rfl, ih _⟩
    · exact List.nil_prefix

theorem byteCount_fitting_le (room : Nat) (text : List Char) :
    byteCount (fitting room text) ≤ room := by
  induction text generalizing room with
  | nil => exact Nat.zero_le room
  | cons c text ih =>
    rw [fitting]
    split
    · have rest := ih (room - c.utf8Size)
      rw [byteCount_cons]
      omega
    · exact Nat.zero_le room

/-- A beginning that has room is no longer than the one that is kept. -/
theorem prefix_fitting {room : Nat} {other text : List Char} (begins : other <+: text)
    (fits : byteCount other ≤ room) : other <+: fitting room text := by
  induction text generalizing room other with
  | nil =>
    rw [List.prefix_nil.mp begins]
    exact List.nil_prefix
  | cons c text ih =>
    cases other with
    | nil => exact List.nil_prefix
    | cons d other =>
      obtain ⟨rfl, after⟩ := List.cons_prefix_cons.mp begins
      rw [byteCount_cons] at fits
      rw [fitting, if_pos (by omega)]
      exact List.cons_prefix_cons.mpr ⟨rfl, ih after (by omega)⟩

theorem isLongest_fitting (room : Nat) (text : List Char) :
    IsLongest room (fitting room text) text := by
  constructor
  · exact fitting_begins room text
  · rw [length_ofText_ofList]
    exact byteCount_fitting_le room text
  · intro other begins fits
    rw [length_ofText_ofList] at fits
    exact prefix_fitting begins fits

/-- A text that has room is kept whole. -/
theorem IsLongest.eq_of_fits {room : Nat} {message text : List Char}
    (h : IsLongest room message text)
    (fits : (Bytes.ofText (String.ofList text)).length ≤ room) : message = text :=
  h.begins.eq_of_length (Nat.le_antisymm h.begins.length_le
    (h.longest text List.prefix_rfl fits).length_le)

/-! ## Going down to a boundary -/

/-- The message as it is cut at the first boundary from the limit down. There is none if the way
goes past the start, or if the place is inside a character after all. -/
def truncated? (text : List Char) : Option (List Char) :=
  if (Bytes.ofText (String.ofList text)).length < EventData.messageWidth then some text
  else do
    let place ← lastBoundary? text maxMessage
    let (front, _) ← splitAt? place text
    some front

/-- What is kept ends at the boundary that is found by going down. -/
theorem fitting_of_lastBoundary? {room place : Nat} {text : List Char}
    (h : lastBoundary? text room = some place) :
    ∃ back, splitAt? place text = some (fitting room text, back) := by
  obtain ⟨there, below, greatest⟩ := lastBoundary?_spec h
  obtain ⟨front, back, rfl, rfl⟩ := isBoundary_iff.mp there
  obtain ⟨more, kept⟩ := prefix_fitting (List.prefix_append front back) below
  obtain ⟨rest, split⟩ := fitting_begins room (front ++ back)
  -- The end of what is kept is a boundary within the limit as well, hence no further.
  have count := greatest _ (byteCount_fitting_le room (front ++ back))
    (isBoundary_iff.mpr ⟨_, rest, split.symm, rfl⟩)
  rw [← kept, byteCount_append] at count
  have none : more = [] := by
    cases more with
    | nil => rfl
    | cons c more =>
      have positive := c.utf8Size_pos
      rw [byteCount_cons] at count
      omega
  rw [none, List.append_nil] at kept
  exact ⟨back, splitAt?_eq_some_iff.mpr ⟨by rw [← kept], by rw [← kept]⟩⟩

/-- **Going down and going forward come to the same**, and going down always ends. -/
theorem truncated?_eq (text : List Char) : truncated? text = some (fitting maxMessage text) := by
  unfold truncated?
  split
  · rename_i small
    exact congrArg some ((isLongest_fitting maxMessage text).eq_of_fits
      (Nat.le_of_lt_succ small)).symm
  · obtain ⟨place, found⟩ := exists_lastBoundary? text maxMessage
    obtain ⟨back, split⟩ := fitting_of_lastBoundary? found
    rw [found, Option.bind_eq_bind, Option.bind_some, split]
    rfl

/-! ## The record that is handed over -/

/-- The message field holds all bytes of the text and then zeros only, the last of its sixty-four
bytes being one of these. -/
structure IsStored (e : EventData) (text : List Char) : Prop where
  width : e.message.length = 64
  bytes : ∃ zeros, e.message = Bytes.ofText (String.ofList text) ++ List.replicate zeros 0
  last : e.message[63]? = some 0

theorem isStored_ofNotification {n : EventNotification}
    (fits : (Bytes.ofText (String.ofList n.message)).length ≤ maxMessage) :
    IsStored (EventData.ofNotification n) n.message := by
  have whole : (EventData.ofNotification n).message = Bytes.ofText (String.ofList n.message) ++
      List.replicate (64 - (Bytes.ofText (String.ofList n.message)).length) 0 := by
    unfold EventData.ofNotification
    dsimp only
    rw [List.take_of_length_le fits]
    rfl
  have limit : (Bytes.ofText (String.ofList n.message)).length ≤ 63 := fits
  refine ⟨?_, ⟨_, whole⟩, ?_⟩
  · rw [whole, List.length_append, List.length_replicate]
    omega
  · rw [whole, List.getElem?_append_right limit]
    exact List.getElem?_replicate_of_lt (by omega)

/-- What becomes of a line. -/
structure IsRecorded (line : List Char) : Prop where
  refused_iff : read? line = none ↔
    ∀ event : UInt32, ¬ WritesUnsigned 16 (numberPart line) event.toNat
  event : ∀ r, read? line = some r → WritesUnsigned 16 (numberPart line) r.event.toNat
  longest : ∀ r, read? line = some r → IsLongest 63 r.message (messagePart line)
  whole : ∀ r, read? line = some r →
    (Bytes.ofText (String.ofList (messagePart line))).length ≤ 63 → r.message = messagePart line
  /-- Going down from the limit ends at a boundary, and the message is what stands before it. -/
  stops : ∃ place, lastBoundary? (messagePart line) 63 = some place
  truncated : ∀ r, read? line = some r → truncated? (messagePart line) = some r.message
  stored : ∀ r, read? line = some r → ∀ device,
    IsStored (EventData.ofNotification ⟨device, r.event, r.message⟩) r.message

/-- **Every line is recorded** with as much of its message as fits, or it has no number. -/
theorem isRecorded_read (line : List Char) : IsRecorded line := by
  have kept : ∀ r, read? line = some r → IsLongest maxMessage r.message (messagePart line) := by
    intro r h
    rw [(read?_eq_some_iff.mp h).2]
    exact isLongest_fitting maxMessage (messagePart line)
  constructor
  · rw [read?_eq, Option.map_eq_none_iff, Option.eq_none_iff_forall_ne_some]
    simp only [ne_eq,
      readU32?_eq_some_iff (show 1 < 16 by decide) (show 16 ≤ 16 by decide)]
  · exact fun r h => (read?_eq_some_iff.mp h).1
  · exact kept
  · exact fun r h fits => (kept r h).eq_of_fits fits
  · exact exists_lastBoundary? (messagePart line) maxMessage
  · intro r h
    rw [truncated?_eq, (read?_eq_some_iff.mp h).2]
  · exact fun r h device => isStored_ofNotification (kept r h).fits

/-- A character of two bytes is left out where there is room for one. -/
example : (read? ("1 ".toList ++ List.replicate 62 'a' ++ ['é', 'b'])).map (·.message.length) =
    some 62 := by
  decide +kernel

end EventRecord

end GpuManagement
