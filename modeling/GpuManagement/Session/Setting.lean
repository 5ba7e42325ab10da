import GpuManagement.Session.Reading

/-!
# Settings

Everything a session can be told to change about a device is a `Setting`. A setting is checked
first and only then carried out, as a short list of files to write in order; a failure between two
writes leaves the first one done.
-/

namespace GpuManagement

/-- Something to be changed about a device. -/
inductive Setting where
  | perfLevel (level : PerfLevel)
  | overdriveLevel (level : UInt32)
  | clockLevels (clock : ClockType) (mask : UInt64)
  | busLevels (mask : UInt64)
  /-- The profile is a mask with a single bit. -/
  | powerProfile (profile : UInt64)
  | fanReset (fan : UInt32)
  | fanSpeed (fan : UInt32) (speed : UInt64)
  | powerCap (sensor : UInt32) (cap : UInt64)
  deriving DecidableEq, Repr

namespace Setting

def maxOverdriveLevel : Nat := 20

/-- The place of the only bit of a mask. -/
def singleBit? (mask : UInt64) : Option Nat :=
  match selectedLevels mask 64 with
  | [bit] => some bit
  | _ => none

/-- What can be wrong with a setting whatever the device. -/
def check : Setting → Outcome Unit
  | perfLevel level => if level = .unknown then .fail .invalidArgs else .ok ()
  | overdriveLevel level => if maxOverdriveLevel < level.toNat then .fail .invalidArgs else .ok ()
  | powerProfile profile => if (singleBit? profile).isNone then .fail .invalidArgs else .ok ()
  | _ => .ok ()

end Setting

/-- A file and the text that is written to it. -/
structure FileWrite where
  path : Path
  text : String
  deriving DecidableEq, Repr

/-- Writes in order up to the first failure. -/
def FileWrite.run (t : Tree) : List FileWrite → Outcome Unit × Tree
  | [] => (.ok (), t)
  | w :: rest =>
    match Files.writeText t w.path w.text with
    | .error e => (.error e, t)
    | .ok t => run t rest

namespace Device

/-- The write that puts a text into an attribute. -/
def attributeWrite (d : Device) (a : Attribute) (text : String) : FileWrite :=
  ⟨d.attributePath a .writing, text⟩

/-- The write after which levels of clocks can be chosen. -/
def manualLevels (d : Device) : FileWrite := d.attributeWrite .perfLevel PerfLevel.manual.keyword

/-- The writes that choose levels of the frequency table in an attribute. -/
def levelWrites (d : Device) (t : Tree) (a : Attribute) (mask : UInt64) :
    Outcome (List FileWrite) := do
  let table ← d.readTable t a
  let selection ← levelSelection mask table.count
  .ok [d.manualLevels, d.attributeWrite a selection]

/-- The writes that carry out a setting. -/
def writes (d : Device) (t : Tree) : Setting → Outcome (List FileWrite)
  | .perfLevel level => .ok [d.attributeWrite .perfLevel level.keyword]
  | .overdriveLevel level => .ok [d.attributeWrite .overDriveLevel (decimalText level.toNat)]
  | .clockLevels clock mask => d.levelWrites t clock.tableAttribute mask
  | .busLevels mask => d.levelWrites t .pcieClk mask
  | .powerProfile profile => do
    let bit ← Outcome.ofOption .invalidArgs (Setting.singleBit? profile)
    .ok [d.manualLevels, d.attributeWrite .powerProfileMode (decimalText bit)]
  | .fanReset fan => do
    let m ← d.requireMonitor
    .ok [⟨m.file .fanControlEnable (sensorIndex fan), "2"⟩]
  | .fanSpeed fan speed => do
    let m ← d.requireMonitor
    let index := sensorIndex fan
    let most ← m.readDecimal t .maxFanSpeed index
    if most.toNat < speed.toNat then .fail .inputOutOfBounds
    else
      .ok [⟨m.file .fanControlEnable index, "1"⟩,
        ⟨m.file .fanSpeed index, decimalText speed.toNat⟩]
  | .powerCap sensor cap => do
    let m ← d.requireMonitor
    let index := sensorIndex sensor
    let most ← m.readDecimal t .powerCapMax index
    let least ← m.readDecimal t .powerCapMin index
    if least.toNat ≤ cap.toNat ∧ cap.toNat ≤ most.toNat then
      .ok [⟨m.file .powerCap index, decimalText cap.toNat⟩]
    else .fail .invalidArgs

/-- Carries out a setting on the files of a device. -/
def apply (d : Device) (t : Tree) (s : Setting) : Outcome Unit × Tree :=
  match d.writes t s with
  | .error e => (.error e, t)
  | .ok ws => FileWrite.run t ws

end Device

end GpuManagement
