import GpuManagement.Files.Tree
import GpuManagement.Text.Pattern

/-!
# Groups of events that are counted

A card counts the traffic of its links in two groups of events. Each group has a directory of its
own for every card, with a file for each event.
-/

namespace GpuManagement

open Text

/-- A group of events. -/
inductive EventGroup where
  | xgmi
  | xgmiDataOut
  deriving DecidableEq, Repr

namespace EventGroup

def all : List EventGroup := [xgmi, xgmiDataOut]

/-- The number of a group, which is that of its first event. -/
def number : EventGroup → UInt32
  | xgmi => 0
  | xgmiDataOut => 10

/-- The number of the last event of a group. -/
def lastEvent : EventGroup → UInt32
  | xgmi => 7
  | xgmiDataOut => 15

def ofNumber? (n : UInt32) : Option EventGroup := all.find? fun g => g.number = n

def ofEvent? (event : UInt32) : Option EventGroup :=
  all.find? fun g => decide (g.number.toNat ≤ event.toNat ∧ event.toNat ≤ g.lastEvent.toNat)

/-- The name of the directory of a group, with a mark for the card. -/
def directoryPattern : EventGroup → String
  | xgmi => "amdgpu_df_#"
  | xgmiDataOut => "amdgpu_#"

/-- The name of the directory of a group of a card. -/
def directoryName (g : EventGroup) (card : UInt32) : String :=
  String.ofList (atIndex g.directoryPattern.toList card)

/-- The numbers of the groups that a card has. -/
def ofCard (t : Tree) (root : Path) (card : UInt32) : List UInt32 :=
  (all.filter fun g => t.isDirectory (root.child (g.directoryName card))).map number

/-- The kinds of traffic of the first group. -/
def xgmiEvents : List String :=
  ["pcsout_txmeta", "ftiinstat_reqalloc", "ftiinstat_rspalloc", "pcsout_txdata"]

/-- The file of an event of a group, by its place in the group. -/
def eventFile (g : EventGroup) (place : Nat) : String :=
  match g with
  | xgmi =>
    "cake" ++ String.ofList (decimal (place / 4)) ++ "_" ++ xgmiEvents.getD (place % 4) ""
  | xgmiDataOut => "xgmi_link" ++ String.ofList (decimal place) ++ "_data_outbound"

/-- The file of an event, if it belongs to a group. -/
def fileOfEvent? (event : UInt32) : Option String :=
  (ofEvent? event).map fun g => g.eventFile (event.toNat - g.number.toNat)

end EventGroup

end GpuManagement
