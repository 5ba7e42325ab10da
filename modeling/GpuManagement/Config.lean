import GpuManagement.Data.Table
import GpuManagement.Files.Path
import GpuManagement.Text.Blank

/-!
# Configuration

The places where the system shows its devices, and the settings that redirect them for debugging.
A setting comes from a variable of the environment; a value that cannot be read leaves the setting
as it was.
-/

namespace GpuManagement

open Text

/-- The flags a session is opened with. Only the call that opens it is heard. -/
structure InitFlags where
  bits : UInt64
  deriving DecidableEq, Repr

namespace InitFlags

/-- Every graphics card counts, not only those of one vendor. -/
def allGpus (flags : InitFlags) : Bool := flags.bits &&& 0x1 != 0

/-- A device in use is reported as busy instead of being waited for. -/
def nonBlocking (flags : InitFlags) : Bool := flags.bits &&& 0x800000000000000 != 0

end InitFlags

/-- The places and settings a session works with. -/
structure Config where
  drmRoot : Path
  nodesRoot : Path
  processRoot : Path
  driRoot : Path
  eventSourceRoot : Path
  kfdDevice : Path
  driverVersionFile : Path
  debugBits : UInt64
  drmOverride : Option Path
  hwmonOverride : Option Path
  powerOverride : Option Path
  /-- The numbers of the attributes that `drmOverride` applies to, ascending. -/
  overriddenAttributes : Table UInt32 Unit
  loggingLevel : UInt32
  deriving DecidableEq, Repr

namespace Config

/-- The usual places, with no setting changed. -/
def standard : Config where
  drmRoot := .root ["sys", "class", "drm"]
  nodesRoot := .root ["sys", "class", "kfd", "kfd", "topology", "nodes"]
  processRoot := .root ["sys", "class", "kfd", "kfd", "proc"]
  driRoot := .root ["sys", "kernel", "debug", "dri"]
  eventSourceRoot := .root ["sys", "bus", "event_source", "devices"]
  kfdDevice := .root ["dev", "kfd"]
  driverVersionFile := .root ["sys", "module", "amdgpu", "version"]
  debugBits := 0
  drmOverride := none
  hwmonOverride := none
  powerOverride := none
  overriddenAttributes := []
  loggingLevel := 0

/-- A number in hexadecimal after `0x`, else in decimal, blanks around it allowed. -/
def number? (cs : List Char) : Option UInt64 :=
  match trim cs with
  | '0' :: 'x' :: digits => readU64? 16 digits
  | '0' :: 'X' :: digits => readU64? 16 digits
  | digits => readU64? 10 digits

/-- The attribute numbers in a list separated by commas; what is not a number is passed over. -/
def attributeNumbers (cs : List Char) : List UInt32 :=
  (splitWhere (· = ',') cs).filterMap fun item => readU32? 10 (trim item)

/-- The path a variable gives, unless it is empty. -/
def pathSetting? (value : Option String) : Option Path :=
  match value with
  | some text => if text.isEmpty then none else some (.ofText text)
  | none => none

/-- The configuration with the settings of an environment, which gives a variable its value. -/
def withEnvironment (c : Config) (lookup : String → Option String) : Config :=
  { c with
    debugBits :=
      (((lookup "RSMI_DEBUG_BITFIELD").bind fun v => number? v.toList)).getD c.debugBits
    drmOverride := (pathSetting? (lookup "RSMI_DEBUG_DRM_ROOT_OVERRIDE")).or c.drmOverride
    hwmonOverride := (pathSetting? (lookup "RSMI_DEBUG_HWMON_ROOT_OVERRIDE")).or c.hwmonOverride
    powerOverride := (pathSetting? (lookup "RSMI_DEBUG_PP_ROOT_OVERRIDE")).or c.powerOverride
    overriddenAttributes :=
      match lookup "RSMI_DEBUG_ENUM_OVERRIDE" with
      | some v =>
        (attributeNumbers v.toList).foldl (fun t id => t.insert id ()) c.overriddenAttributes
      | none => c.overriddenAttributes
    loggingLevel :=
      ((lookup "RSMI_LOGGING").bind fun v => readU32? 10 (trim v.toList)).getD c.loggingLevel }

def tracesPaths (c : Config) : Bool := c.debugBits &&& 0x1 != 0

def tracesValues (c : Config) : Bool := c.debugBits &&& 0x2 != 0

/-- The directory that stands in for the device directory of an attribute, if one does. -/
def overrideFor (c : Config) (id : UInt32) : Option Path :=
  if c.overriddenAttributes.has id then c.drmOverride else none

end Config

/-- How much is written to the log. -/
inductive LogLevel where
  | warnings
  | information
  | everything
  deriving DecidableEq, Repr

/-- The level that a number asks for; zero asks for no log. -/
def LogLevel.ofNumber (n : UInt32) : Option LogLevel :=
  if n = 0 then none
  else if n = 1 then some .warnings
  else if n = 2 then some .information
  else some .everything

end GpuManagement
