/-!
# Request numbers

A request to a device of the system has a number that packs the direction of its argument, the
letter of the device, the request itself and the size of the argument.
-/

namespace GpuManagement.Request

def none_ : UInt32 := 0
def given : UInt32 := 1
def returned : UInt32 := 2

/-- A request number; the size counts in bytes. -/
def number (direction letter request size : UInt32) : UInt32 :=
  (direction <<< 30) ||| (letter <<< 8) ||| request ||| (size <<< 16)

def plain (letter request : UInt32) : UInt32 := number none_ letter request 0

def reading (letter request size : UInt32) : UInt32 := number returned letter request size

def exchanging (letter request size : UInt32) : UInt32 :=
  number (returned ||| given) letter request size

/-- Asks the driver for its version, two numbers of four bytes. -/
def driverVersion : UInt32 := reading 0x4B 0x01 8

/-- Asks the driver for the events of a card, named by its number and answered by a descriptor. -/
def eventStream : UInt32 := exchanging 0x4B 0x1F 8

def enableCounter : UInt32 := plain 0x24 0

def disableCounter : UInt32 := plain 0x24 1

end GpuManagement.Request
