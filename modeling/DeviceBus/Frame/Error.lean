import DeviceBus.Medium.IoError

/-!
# Frame errors

What can be wrong with a frame, with the packets inside it, and with the stream it travels on.
-/

namespace DeviceBus

/-- An error of the frame layer. -/
inductive FrameError where
  /-- The buffer is shorter than the frame header. -/
  | truncated (length : Nat)
  /-- The size field claims more bytes than there are. -/
  | sizeMismatch (size available : Nat)
  /-- The payload is longer than the bus allows. -/
  | payloadTooLarge (size max : Nat)
  /-- A control packet is shorter than its header. -/
  | controlTooShort (length : Nat)
  /-- A streaming command lacks its fixed fields. -/
  | commandTooShort (command : UInt8) (length : Nat)
  /-- The stream failed. -/
  | io (cause : IoError)
  /-- The stream ended, possibly inside a frame. -/
  | connectionClosed
  deriving DecidableEq, Repr

/-- The name of the cause. -/
def FrameError.name : FrameError → String
  | .truncated _ => "Truncated"
  | .sizeMismatch _ _ => "SizeMismatch"
  | .payloadTooLarge _ _ => "PayloadTooLarge"
  | .controlTooShort _ => "ControlTooShort"
  | .commandTooShort _ _ => "CommandTooShort"
  | .io cause => "Io." ++ cause.kind.name
  | .connectionClosed => "ConnectionClosed"

/-- The error in words. -/
def FrameError.message : FrameError → String
  | .truncated length => "frame truncated (" ++ toString length ++ " bytes, header needs 4)"
  | .sizeMismatch size available =>
    "frame size field " ++ toString size ++ " exceeds available " ++ toString available ++ " bytes"
  | .payloadTooLarge size max =>
    "payload too large (" ++ toString size ++ " bytes, max " ++ toString max ++ ")"
  | .controlTooShort length =>
    "control packet too short (" ++ toString length ++ " bytes, header needs 12)"
  | .commandTooShort command length =>
    "streaming command " ++ toString command.toNat ++ " too short (" ++ toString length ++
      " bytes)"
  | .io cause => "frame I/O error: " ++ cause.text
  | .connectionClosed => "connection closed (incomplete frame)"

end DeviceBus
