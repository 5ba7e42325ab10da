import GpuManagement.Files.Read

/-!
# Bus addresses

A card sits at an address of its bus: domain, bus, device and function, packed into one number with
the domain in its upper half. `BusAddress.read?` accepts exactly the written form
`DDDD:BB:DD.F`, and `BusAddress.text` writes it.
-/

namespace GpuManagement

open Text

/-- A packed address: the domain from bit 32 on, the bus from bit 8, the device from bit 3, the
function below. Bits 28 to 31 number the partition of a card that is split. -/
abbrev BusAddress := UInt64

namespace BusAddress

def ofParts (domain bus device function : UInt64) : BusAddress :=
  (domain <<< 32) ||| (bus <<< 8) ||| (device <<< 3) ||| function

/-- The number that hexadecimal digits write; nothing but digits is accepted. -/
def hexField? (cs : List Char) : Option UInt64 := (readNat? 16 cs).map UInt64.ofNat

/-- The address that a text of the form `DDDD:BB:DD.F` writes. -/
def read? : List Char → Option BusAddress
  | [d₁, d₂, d₃, d₄, ':', b₁, b₂, ':', v₁, v₂, '.', f] => do
    let domain ← hexField? [d₁, d₂, d₃, d₄]
    let bus ← hexField? [b₁, b₂]
    let device ← hexField? [v₁, v₂]
    let function ← hexField? [f]
    if 0x1F < device.toNat ∨ 0x7 < function.toNat then none
    else some (ofParts domain bus device function)
  | _ => none

/-- The written form of an address; the partition is not shown. -/
def text (a : BusAddress) : List Char :=
  hexPadded 4 (a >>> 32).toNat ++ [':'] ++ hexPadded 2 ((a >>> 8) &&& 0xFF).toNat ++ [':'] ++
    hexPadded 2 ((a >>> 3) &&& 0x1F).toNat ++ ['.'] ++ hexPadded 1 (a &&& 0x7).toNat

/-- The address of the whole card, the same for all its partitions. -/
def ofCard (a : BusAddress) : BusAddress := a &&& 0xFFFFFFFF0FFFFFFF

/-- The address of a card, which is the last name in the target of its `device` link. -/
def ofCardPath (t : Tree) (card : Path) : Outcome BusAddress := do
  let link := card.child "device"
  let target ← Files.atPath link (t.readLink link)
  match read? ((Path.ofText target).fileName?.getD "").toList with
  | some address => .ok address
  | none => .error (.startup (.unnamedCard link target))

end BusAddress

end GpuManagement
