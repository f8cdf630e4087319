import DeviceBus.DeviceClass
import DeviceBus.Flags
import DeviceBus.Frame.Packet

/-!
# Control packets

The payload of a frame to the logic address: a type, the address it is about, flags, class and
serial number, and up to 20 bytes of the driver's own. Announces (`hello`) and pairing packets
share the layout; a pairing packet with `ack` or `nack` is a response, any other a request.
-/

namespace DeviceBus

/-- The bytes of a control header. -/
def controlHeaderLength : Nat := 12

/-- The most driver bytes in a control packet. -/
def controlPayloadLimit : Nat := payloadLimit - controlHeaderLength

/-- The type of a control packet. -/
inductive ControlType where
  /-- A periodic announce. -/
  | hello
  /-- A pairing request or response. -/
  | pairing
  /-- Any other type byte. -/
  | unknown (byte : UInt8)
  deriving DecidableEq, Repr, Inhabited

namespace ControlType

/-- The type that a byte stands for. -/
def ofByte (byte : UInt8) : ControlType :=
  if byte = 1 then .hello else if byte = 2 then .pairing else .unknown byte

/-- The byte of a type. -/
def toByte : ControlType → UInt8
  | .hello => 1
  | .pairing => 2
  | .unknown byte => byte

/-- The name of a type. -/
def name : ControlType → String
  | .hello => "hello"
  | .pairing => "pairing-request"
  | .unknown byte => "unknown(" ++ toString byte.toNat ++ ")"

end ControlType

/-- A control packet. In an announce the address is the sender's, in a pairing packet the
target's. -/
structure ControlPacket where
  type : ControlType
  address : UInt8
  flags : ControlFlags
  deviceClass : DeviceClass
  serial : UInt32
  payload : Bytes
  deriving DecidableEq, Repr, Inhabited

namespace ControlPacket

/-- An announce without flags and payload. -/
def hello (address : UInt8) (deviceClass : DeviceClass) (serial : UInt32) : ControlPacket :=
  ⟨.hello, address, Flags.none, deviceClass, serial, []⟩

/-- Read a control packet from a frame payload. -/
def decode (data : Bytes) : Except FrameError ControlPacket :=
  match data with
  | type :: address :: f0 :: f1 :: c0 :: c1 :: c2 :: c3 :: s0 :: s1 :: s2 :: s3 :: payload =>
    .ok
      { type := .ofByte type
        address
        flags := ⟨Bytes.word16 f0 f1⟩
        deviceClass := Bytes.word32 c0 c1 c2 c3
        serial := Bytes.word32 s0 s1 s2 s3
        payload }
  | _ => .error (.controlTooShort data.length)

/-- The frame payload of a control packet, without regard to its length. -/
def toBytes (cp : ControlPacket) : Bytes :=
  [cp.type.toByte, cp.address] ++ Bytes.ofWord16 cp.flags.bits ++ Bytes.ofWord32 cp.deviceClass ++
    Bytes.ofWord32 cp.serial ++ cp.payload

/-- The packet that carries a control packet to the logic address. -/
def toPacket (cp : ControlPacket) : Except FrameError Packet :=
  if controlPayloadLimit < cp.payload.length then
    .error (.payloadTooLarge cp.payload.length controlPayloadLimit)
  else Packet.ofData controlAddress cp.toBytes

/-- Whether the packet answers a pairing request. -/
def isPairingAnswer (cp : ControlPacket) : Bool :=
  cp.type == .pairing && cp.flags.intersects (ControlFlags.ack ∪ ControlFlags.nack)

end ControlPacket

end DeviceBus
