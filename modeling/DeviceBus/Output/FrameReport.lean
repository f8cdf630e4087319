import DeviceBus.ControlPacket
import DeviceBus.Output.Json
import DeviceBus.Output.Table
import DeviceBus.StreamCommand
import DeviceBus.Text.Hex

/-!
# Frames in print

A frame to the logic address is read as a control packet, any other one as a stream command; where
that fails, the reason stands in its place. A frame is printed as JSON, as a table, as one line, or
as its bytes.
-/

namespace DeviceBus

/-- What the payload of a frame means. -/
inductive Reading where
  | control (cp : ControlPacket)
  | command (command : StreamCommand)
  | unreadable (error : FrameError)
  deriving DecidableEq, Repr

/-- Read the payload of a packet. -/
def Packet.reading (packet : Packet) : Reading :=
  if packet.isControl then
    match ControlPacket.decode packet.data with
    | .ok cp => .control cp
    | .error e => .unreadable e
  else
    match StreamCommand.decode packet.data with
    | .ok command => .command command
    | .error e => .unreadable e

/-- The name of a command. -/
def StreamCommand.name : StreamCommand → String
  | .idle => "none"
  | .start _ => "start-stream"
  | .stop => "stop-stream"
  | .state _ _ => "state"
  | .other _ _ => "other"

/-- The interval in a command. -/
def StreamCommand.interval? : StreamCommand → Option UInt32
  | .start interval => some interval
  | _ => none

/-- The timestamp in a command. -/
def StreamCommand.timestamp? : StreamCommand → Option UInt32
  | .state timestamp _ => some timestamp
  | _ => none

/-- The bytes in a command. -/
def StreamCommand.content? : StreamCommand → Option Bytes
  | .state _ bytes => some bytes
  | .other _ payload => some payload
  | _ => none

namespace JsonValue

/-- Bytes as hexadecimal text. -/
def hex (bytes : Bytes) (codec : HexCodec := Hex.codec) : JsonValue := text (codec.text bytes)

/-- A control packet. -/
def ofControl (cp : ControlPacket) (codec : HexCodec := Hex.codec) : JsonValue :=
  object
    [("type", text cp.type.name), ("address", number cp.address.toNat),
     ("flags", number cp.flags.bits.toNat), ("flag_names", list (cp.flags.names.map text)),
     ("driver_class", number cp.deviceClass.toNat), ("class_name", text cp.deviceClass.name),
     ("serial_number", number cp.serial.toNat), ("payload", hex cp.payload codec)]

/-- A stream command. -/
def ofCommand (command : StreamCommand) (codec : HexCodec := Hex.codec) : JsonValue :=
  object
    ([("command", number command.byte.toNat), ("name", text command.name)] ++
      optional "interval_ms" (command.interval?.map fun i => number i.toNat) ++
      optional "timestamp_ms" (command.timestamp?.map fun t => number t.toNat) ++
      optional "state" (command.content?.map fun bytes => hex bytes codec))

/-- A frame. -/
def ofPacket (packet : Packet) (codec : HexCodec := Hex.codec) : JsonValue :=
  let meaning :=
    match packet.reading with
    | .control cp => ("control", ofControl cp codec)
    | .command command => ("command", ofCommand command codec)
    | .unreadable e => ("note", text e.message)
  object
    [("address", number packet.address.toNat), ("crc", number packet.crc.toNat),
     ("size", number packet.data.length), ("data", hex packet.data codec), meaning]

end JsonValue

namespace Packet

/-- Whether a packet is for the logic or carries data. -/
def kindName (packet : Packet) : String := if packet.isControl then "control" else "data"

/-- What a packet says, in words. -/
def summary (packet : Packet) (codec : HexCodec := Hex.codec) : String :=
  match packet.reading with
  | .control cp =>
    let names := cp.flags.names
    cp.type.name ++ " addr=" ++ toString cp.address.toNat ++ " flags=" ++
      (if names.isEmpty then "-" else String.intercalate "|" names) ++
      " class=" ++ toString cp.deviceClass.toNat ++ " (" ++ cp.deviceClass.name ++ ") serial=" ++
      toString cp.serial.toNat
  | .command command =>
    command.name ++
      ((command.interval?.map fun i => " interval=" ++ toString i.toNat ++ "ms").getD "") ++
      ((command.timestamp?.map fun t => " ts=" ++ toString t.toNat).getD "") ++
      ((command.content?.map fun bytes => " bytes=" ++ codec.text bytes).getD "")
  | .unreadable e => e.message

/-- A packet as a table. -/
def table (packet : Packet) (codec : HexCodec := Hex.codec) : Table :=
  ⟨["ADDRESS", "KIND", "SIZE", "DETAIL"],
    [[toString packet.address.toNat, packet.kindName, toString packet.data.length,
      packet.summary codec]]⟩

/-- A packet as one line. -/
def line (packet : Packet) (codec : HexCodec := Hex.codec) : String :=
  "address=" ++ toString packet.address.toNat ++ " kind=" ++ packet.kindName ++ " size=" ++
    toString packet.data.length ++ " " ++ packet.summary codec

end Packet

end DeviceBus
