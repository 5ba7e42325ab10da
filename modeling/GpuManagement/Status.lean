/-!
# Status codes

Every call ends in one of eighteen statuses. Their numbers are fixed for good, `Status.ofErrno`
maps an error number of the system to a status, and `Status.description` is the text for people.
-/

namespace GpuManagement

/-- How a call ended. -/
inductive Status where
  | success
  | invalidArgs
  | notSupported
  | fileError
  | permission
  | outOfResources
  | internalException
  | inputOutOfBounds
  | initError
  | notYetImplemented
  | notFound
  | insufficientSize
  | interrupt
  | unexpectedSize
  | noData
  | unexpectedData
  | busy
  | unknownError
  deriving DecidableEq, Repr, Inhabited

namespace Status

def code : Status → UInt32
  | success => 0x0
  | invalidArgs => 0x1
  | notSupported => 0x2
  | fileError => 0x3
  | permission => 0x4
  | outOfResources => 0x5
  | internalException => 0x6
  | inputOutOfBounds => 0x7
  | initError => 0x8
  | notYetImplemented => 0x9
  | notFound => 0xA
  | insufficientSize => 0xB
  | interrupt => 0xC
  | unexpectedSize => 0xD
  | noData => 0xE
  | unexpectedData => 0xF
  | busy => 0x10
  | unknownError => 0xFFFFFFFF

def all : List Status :=
  [success, invalidArgs, notSupported, fileError, permission, outOfResources, internalException,
    inputOutOfBounds, initError, notYetImplemented, notFound, insufficientSize, interrupt,
    unexpectedSize, noData, unexpectedData, busy, unknownError]

def ofCode? (n : UInt32) : Option Status := all.find? fun s => s.code = n

/-- The status that stands for an error number of the system. -/
def ofErrno (errno : Int) : Status :=
  if errno = 0 then success
  else if errno = 3 then notFound
  else if errno = 13 then permission
  else if errno = 1 ∨ errno = 2 then notSupported
  else if errno = 9 ∨ errno = 21 then fileError
  else if errno = 4 then interrupt
  else if errno = 5 then unexpectedSize
  else if errno = 6 then unexpectedData
  else if errno = 16 then busy
  else if errno = 22 then invalidArgs
  else if errno = 12 then outOfResources
  else unknownError

def description : Status → String
  | success => "RSMI_STATUS_SUCCESS: The function has been executed successfully."
  | invalidArgs =>
    "RSMI_STATUS_INVALID_ARGS: The provided arguments do not meet the preconditions " ++
      "required for calling this function."
  | notSupported =>
    "RSMI_STATUS_NOT_SUPPORTED: This function is not supported in the current environment."
  | fileError =>
    "RSMI_STATUS_FILE_ERROR: A file or directory could not be found or opened. The " ++
      "running kernel may not expose this interface."
  | permission =>
    "RSMI_STATUS_PERMISSION: The calling process lacks the privileges this command " ++
      "requires. Running as root usually fixes this."
  | outOfResources => "Unable to acquire memory or other resource"
  | internalException => "An internal exception was caught"
  | inputOutOfBounds => "The provided input is out of allowable or safe range"
  | initError =>
    "An error occurred during initialization, monitor discovery or while building " ++
      "internal data structures"
  | notYetImplemented => "The called function has not been implemented for this device type"
  | notFound => "An item required to complete the call was not found"
  | insufficientSize => "Not enough space was provided to fully return the result"
  | interrupt => "An interrupt occurred while executing the call"
  | unexpectedSize => "The data read or written had an unexpected size"
  | noData => "No data was found for the given input"
  | unexpectedData => "The data read or provided was not in the expected form"
  | busy => "The device is busy; retry the call"
  | unknownError => "An unknown error prevented the call from completing successfully"

/-- A status is found by its own number. -/
theorem ofCode?_code (s : Status) : ofCode? s.code = some s := by
  cases s <;> decide

end Status

end GpuManagement
