/-!
# Driver classes

A class is a 32-bit number that says what a driver serves. The first 256 are reserved for
built-in drivers; a program's own drivers carry a hash, which lies far above.
-/

namespace DeviceBus

/-- What a driver serves. -/
abbrev DeviceClass := UInt32

namespace DeviceClass

/-- The class of remote pin control. -/
def pin : DeviceClass := 7

/-- The class of console log forwarding. -/
def logger : DeviceClass := 9

/-- The name of a class. -/
def name (deviceClass : DeviceClass) : String :=
  if deviceClass = 0 then "CONTROL"
  else if deviceClass = 1 then "ARCADE"
  else if deviceClass = 2 then "JOYSTICK"
  else if deviceClass = 3 then "MESSAGE_BUS"
  else if deviceClass = 4 then "RADIO"
  else if deviceClass = 5 then "BRIDGE"
  else if deviceClass = 6 then "BUTTON"
  else if deviceClass = 7 then "PIN"
  else if deviceClass = 8 then "RELIABILITY_TESTER"
  else if deviceClass = 9 then "LOGGER"
  else if deviceClass < 256 then "RESERVED"
  else "PROGRAM"

/-- Whether a class is set aside for built-in drivers. -/
def isReserved (deviceClass : DeviceClass) : Bool := deviceClass < 256

end DeviceClass

end DeviceBus
