import GpuManagement.Files.Path
import GpuManagement.Files.Fault
import GpuManagement.Status
import GpuManagement.Text.Quoted

/-!
# Errors

An error is a cause: a bare status, a refusal of the system with or without the path it concerns,
content that does not have its form, or a session that could not be opened. `Error.message` holds
all the wording, `Error.status` the status a caller gets, and `Error.errno?` the error number behind
an error, if there is one.
-/

namespace GpuManagement

open Text

/-- What is wrong with a line of a frequency table. -/
inductive FrequencyProblem where
  | missingIndex
  | missingValue
  | missingUnit
  | badValue
  | unexpectedUnit
  deriving DecidableEq, Repr

/-- What is wrong with some content. -/
inductive Malformation where
  | notAnInteger (token : List Char)
  | notHexadecimal (token : List Char)
  | missingLinkKey (key : String)
  | linkValueTooLarge (key : String) (value : UInt64)
  | gpuIdTooLarge (digits : List Char)
  | pmuTypeTooLarge (value : UInt64)
  | badAssignment (assignment : List Char)
  | frequencyLine (problem : FrequencyProblem) (line : List Char)
  /-- Content that is shown as it is, without more being said. -/
  | content (text : List Char)
  | note (text : String)
  deriving DecidableEq, Repr

/-- Why a session could not be opened. -/
inductive StartupProblem where
  | missingHive (node : UInt32)
  | missingProperty (node : UInt32) (key : String)
  | missingAddress (node : UInt32)
  /-- The link of a card does not end in a bus address. -/
  | unnamedCard (link : Path) (target : String)
  | note (text : String)
  deriving DecidableEq, Repr

/-- The part of opening a session in which another error came up. -/
inductive StartupStage where
  | nodeLinks (node : UInt32)
  | systemLinks
  | discovery
  deriving DecidableEq, Repr

/-- Why a call failed. -/
inductive Error where
  | status (status : Status)
  | system (fault : Fault)
  | access (path : Path) (fault : Fault)
  | malformed (source : String) (problem : Malformation)
  | startup (problem : StartupProblem)
  | startupStage (stage : StartupStage) (cause : Error)
  deriving DecidableEq, Repr

/-- The words for a problem with a frequency line. -/
def FrequencyProblem.text : FrequencyProblem → String
  | missingIndex => "missing index"
  | missingValue => "missing value"
  | missingUnit => "missing unit"
  | badValue => "bad value"
  | unexpectedUnit => "unexpected unit"

def decimalText (n : Nat) : String := String.ofList (decimal n)

def quoted (cs : List Char) : String := String.ofList (quote cs)

def Malformation.text : Malformation → String
  | notAnInteger token => "expected an integer, found " ++ quoted token
  | notHexadecimal token => "expected a hex value, found " ++ quoted token
  | missingLinkKey key => "missing io-link key " ++ quoted key.toList
  | linkValueTooLarge key value => key ++ " out of range: " ++ decimalText value.toNat
  | gpuIdTooLarge digits => "gpu_id out of range: " ++ String.ofList digits
  | pmuTypeTooLarge value => "pmu type " ++ decimalText value.toNat ++ " too large"
  | badAssignment assignment => "bad value in " ++ quoted assignment
  | frequencyLine problem line => problem.text ++ ": " ++ quoted line
  | content text => quoted text
  | note text => text

def StartupProblem.text : StartupProblem → String
  | missingHive node => "kfd node " ++ decimalText node.toNat ++ ": missing xgmi hive id"
  | missingProperty node key => "kfd node " ++ decimalText node.toNat ++ ": missing " ++ key
  | missingAddress node =>
    "kfd node " ++ decimalText node.toNat ++ ": missing location_id or domain"
  | unnamedCard link target =>
    link.text ++ ": cannot derive BDF from link target " ++ target
  | note text => text

/-- The words that lead to the error of a stage. -/
def StartupStage.text : StartupStage → String
  | nodeLinks node =>
    "kfd node " ++ decimalText node.toNat ++ ": io link discovery failed: "
  | systemLinks => "io link discovery failed: "
  | discovery => ""

namespace Error

def message : Error → String
  | status s => s.description
  | system fault => "I/O Error: " ++ fault.text
  | access path fault => "Failed to access " ++ path.text ++ ": " ++ fault.text
  | malformed source problem => "Malformed content in " ++ source ++ ": " ++ problem.text
  | startup problem => "Initialization failed: " ++ problem.text
  | startupStage stage cause => "Initialization failed: " ++ stage.text ++ cause.message

def errno? : Error → Option Int
  | system fault => some fault.errno
  | access _ fault => some fault.errno
  | _ => none

def toStatus : Error → Status
  | status s => s
  | system fault => Status.ofErrno fault.errno
  | access _ fault => Status.ofErrno fault.errno
  | malformed _ _ => .unexpectedData
  | startup _ => .initError
  | startupStage _ _ => .initError

def malformedFile (path : Path) (problem : Malformation) : Error :=
  .malformed path.text problem

end Error

/-- The result of a call that can fail. -/
abbrev Outcome (α : Type) := Except Error α

def Outcome.fail {α : Type} (status : Status) : Outcome α := .error (.status status)

/-- The value, or a failure with a bare status where there is none. -/
def Outcome.ofOption {α : Type} (status : Status) : Option α → Outcome α
  | some value => .ok value
  | none => .error (.status status)

end GpuManagement
