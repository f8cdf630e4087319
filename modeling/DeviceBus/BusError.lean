import DeviceBus.Frame.Error
import DeviceBus.Handle
import DeviceBus.Medium.Error
import DeviceBus.Text.Duration

/-!
# Errors of the bus

What registration, sends and explicit calls of an application can fail with. Bus traffic never
does: a malformed frame is dropped.
-/

namespace DeviceBus

/-- An error that an application meets. -/
inductive BusError where
  /-- An error of the frame layer. -/
  | frame (cause : FrameError)
  /-- An error of the medium. -/
  | medium (cause : MediumError)
  /-- Every registry slot is taken. -/
  | registryFull (capacity : Nat)
  /-- The handle names no live entry. -/
  | unknownDriver (handle : Handle)
  /-- The driver has no bus address. -/
  | notConnected
  /-- A bounded wait, in milliseconds, ran out. -/
  | timeout (milliseconds : Nat)
  /-- A stream cannot be started. -/
  | streamingUnavailable (reason : String)
  /-- The node no longer runs. -/
  | nodeStopped
  deriving DecidableEq, Repr

/-- The name of the cause, behind the layer it comes from. -/
def BusError.name : BusError → String
  | .frame cause => "Frame." ++ cause.name
  | .medium cause => "Transport." ++ cause.name
  | .registryFull _ => "RegistryFull"
  | .unknownDriver _ => "UnknownDriver"
  | .notConnected => "NotConnected"
  | .timeout _ => "Timeout"
  | .streamingUnavailable _ => "StreamingUnavailable"
  | .nodeStopped => "NodeStopped"

/-- The error in words. -/
def BusError.message : BusError → String
  | .frame cause => "frame error: " ++ cause.message
  | .medium cause => "transport error: " ++ cause.message
  | .registryFull capacity => "driver registry full (" ++ toString capacity ++ " slots)"
  | .unknownDriver handle => "unknown driver " ++ handle.text
  | .notConnected => "driver is not connected"
  | .timeout milliseconds => "timed out after " ++ Text.durationText milliseconds
  | .streamingUnavailable reason => "streaming unavailable: " ++ reason
  | .nodeStopped => "bus node stopped"

end DeviceBus
