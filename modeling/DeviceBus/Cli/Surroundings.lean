import DeviceBus.Bytes
import DeviceBus.Frame.Writer
import DeviceBus.Medium.IoError
import DeviceBus.Medium.SocketPath

/-!
# What a command finds around it

A command reads files and talks to sockets only through its surroundings. The bare surroundings
hold nothing but the null device.
-/

namespace DeviceBus.Cli

/-- Files, sockets and the terminal of a command. -/
structure Surroundings where
  /-- Whether results go to a terminal. -/
  isTerminal : Bool
  /-- The bytes of a file. -/
  read : String → Except IoError Bytes
  /-- What stands at a path. -/
  look : String → Except IoError PathKind
  /-- Reach a socket; the result is what its stream does with writes. -/
  connect : String → Except IoError (List WriteStep)
  /-- Take a path for a socket of one's own. -/
  bind : String → Except IoError Unit

namespace Surroundings

/-- The path does not exist. -/
def notFound : IoError := ⟨.notFound, "No such file or directory (os error 2)"⟩

/-- A part of the path is no directory. -/
def notDirectory : IoError := ⟨.other, "Not a directory (os error 20)"⟩

/-- Nobody listens at the path. -/
def refused : IoError := ⟨.connectionRefused, "Connection refused (os error 111)"⟩

/-- The path is too long for a socket. -/
def tooLong : IoError := ⟨.invalidInput, "path must be shorter than SUN_LEN"⟩

/-- The path of the null device. -/
def nullDevice : String := "/dev/null"

/-- Why a path other than the null device leads nowhere. -/
def absence (path : String) : IoError :=
  if (nullDevice ++ "/").toList.isPrefixOf path.toList then notDirectory else notFound

/-- Surroundings that hold nothing but the null device. -/
def bare : Surroundings where
  isTerminal := false
  read path := if path = nullDevice then .ok [] else .error (absence path)
  look path := if path = nullDevice then .ok .other else .error (absence path)
  connect path :=
    if SocketPath.maxLength ≤ (Text.utf8 path.toList).length then .error tooLong
    else if path = nullDevice then .error refused
    else .error (absence path)
  bind path := .error (absence path)

end Surroundings

end DeviceBus.Cli
