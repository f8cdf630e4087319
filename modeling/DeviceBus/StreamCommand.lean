import DeviceBus.Frame.Packet

/-!
# Streaming commands

The payload of a data frame between streaming drivers: a command byte and, for the two commands
that have them, little-endian fields. Commands above 3 are a driver's own and pass undecoded.
-/

namespace DeviceBus

/-- The bytes in front of a state: command byte and timestamp. -/
def stateHeaderLength : Nat := 5

/-- The longest state that fits one frame. -/
def stateLimit : Nat := payloadLimit - stateHeaderLength

/-- A streaming command. -/
inductive StreamCommand where
  /-- No command. -/
  | idle
  /-- Start streaming, one state every so many milliseconds. -/
  | start (interval : UInt32)
  /-- Stop streaming. -/
  | stop
  /-- A state, with the sender's time in milliseconds. -/
  | state (timestamp : UInt32) (bytes : Bytes)
  /-- A driver's own command. -/
  | other (command : UInt8) (payload : Bytes)
  deriving DecidableEq, Repr, Inhabited

namespace StreamCommand

/-- The command byte. -/
def byte : StreamCommand → UInt8
  | .idle => 0
  | .start _ => 1
  | .stop => 2
  | .state _ _ => 3
  | .other command _ => command

/-- Read a command from a frame payload. -/
def decode (data : Bytes) : Except FrameError StreamCommand :=
  match data with
  | [] => .error (.commandTooShort 0 0)
  | command :: rest =>
    if command = 0 then .ok .idle
    else if command = 1 then
      match rest with
      | b0 :: b1 :: b2 :: b3 :: _ => .ok (.start (Bytes.word32 b0 b1 b2 b3))
      | _ => .error (.commandTooShort 1 data.length)
    else if command = 2 then .ok .stop
    else if command = 3 then
      match rest with
      | b0 :: b1 :: b2 :: b3 :: bytes => .ok (.state (Bytes.word32 b0 b1 b2 b3) bytes)
      | _ => .error (.commandTooShort 3 data.length)
    else .ok (.other command rest)

/-- The frame payload of a command. Whether it fits a frame is the packet's concern. -/
def toBytes : StreamCommand → Bytes
  | .idle => [0]
  | .start interval => 1 :: Bytes.ofWord32 interval
  | .stop => [2]
  | .state timestamp bytes => 3 :: (Bytes.ofWord32 timestamp ++ bytes)
  | .other command payload => command :: payload

end StreamCommand

end DeviceBus
