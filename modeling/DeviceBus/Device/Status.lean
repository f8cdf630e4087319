import DeviceBus.Bytes
import DeviceBus.Device.Role
import DeviceBus.DeviceClass

/-!
# Identity and status of a device

The identity of a device is what its announces carry: address, serial number and class. Addresses
move after conflicts, so serial number and class tell whether two identities are one device. The
status of a registry entry adds a counter of ticks and the flags of its role and lifecycle; every
predicate on it is a matter of flags.
-/

namespace DeviceBus

/-- A device as its control packets show it. -/
structure Identity where
  address : UInt8
  serial : UInt32
  deviceClass : DeviceClass
  deriving DecidableEq, Repr, Inhabited

namespace Identity

/-- The bytes of an encoded identity. -/
def encodedLength : Nat := 9

/-- An identity as bytes. -/
def encode (identity : Identity) : Bytes :=
  identity.address :: (Bytes.ofWord32 identity.serial ++ Bytes.ofWord32 identity.deviceClass)

/-- The identity at the start of some bytes. -/
def decode? : Bytes → Option Identity
  | address :: s0 :: s1 :: s2 :: s3 :: c0 :: c1 :: c2 :: c3 :: _ =>
    some ⟨address, Bytes.word32 s0 s1 s2 s3, Bytes.word32 c0 c1 c2 c3⟩
  | _ => none

/-- An identity in words. -/
def text (identity : Identity) : String :=
  toString identity.serial.toNat ++ "@" ++ toString identity.address.toNat ++ " (class " ++
    toString identity.deviceClass.toNat ++ ")"

/-- Whether two identities are one device, wherever it is. -/
def isSameDevice (a b : Identity) : Bool :=
  a.serial == b.serial && a.deviceClass == b.deviceClass

end Identity

/-- The state of one registry entry. -/
structure Status where
  address : UInt8
  /-- Ticks since something was last seen or decided. -/
  counter : UInt8
  flags : DeviceFlags
  serial : UInt32
  deviceClass : DeviceClass
  deriving DecidableEq, Repr, Inhabited

namespace Status

/-- The status of a fresh driver: no address, only its role's flags. -/
def ofRole (role : Role) (deviceClass : DeviceClass) (serial : UInt32) : Status :=
  ⟨0, 0, role.flags, serial, deviceClass⟩

/-- The role whose mode flags the status has, if there is one. -/
def role? (status : Status) : Option Role :=
  Role.all.find? fun role => role.flags == status.flags.mode

/-- The identity of the entry. -/
def identity (status : Status) : Identity := ⟨status.address, status.serial, status.deviceClass⟩

/-- The status with some flags set. -/
def mark (flags : DeviceFlags) (status : Status) : Status :=
  { status with flags := status.flags.insert flags }

/-- The status with some flags cleared. -/
def unmark (flags : DeviceFlags) (status : Status) : Status :=
  { status with flags := status.flags.remove flags }

/-- Owns its address. -/
def isLocal (status : Status) : Bool := status.flags.contains DeviceFlags.own

/-- Follows a peer. -/
def isRemote (status : Status) : Bool := status.flags.contains DeviceFlags.remote

/-- Hears all traffic of its class. -/
def isBroadcast (status : Status) : Bool := status.flags.contains DeviceFlags.broadcast

/-- Accepts pairing requests. -/
def isPairable (status : Status) : Bool := status.flags.contains DeviceFlags.pairable

/-- Is bonded to a partner. -/
def isPaired (status : Status) : Bool := status.flags.contains DeviceFlags.paired

/-- Has a pairing request out. -/
def isPairing (status : Status) : Bool := status.flags.contains DeviceFlags.pairing

/-- Has a confirmed address. -/
def isConfirmed (status : Status) : Bool := status.flags.contains DeviceFlags.confirmed

/-- Has a drawn address that is not confirmed. -/
def isUnconfirmed (status : Status) : Bool := status.flags.contains DeviceFlags.unconfirmed

/-- Was announced since the last tick. -/
def isSeen (status : Status) : Bool := status.flags.contains DeviceFlags.seen

/-- Carries the mark of a broadcast record. -/
def isRecord (status : Status) : Bool := status.flags.contains DeviceFlags.record

/-- Connected: the address is confirmed (own) or found (remote). -/
def isConnected (status : Status) : Bool := status.isConfirmed

/-- Remote and not broadcast. -/
def isVirtual (status : Status) : Bool := status.isRemote && !status.isBroadcast

/-- Broadcast and pairing. -/
def isPairClient (status : Status) : Bool :=
  status.isBroadcast && status.flags.contains DeviceFlags.pair

/-- Local and not broadcast. -/
def isHost (status : Status) : Bool := status.isLocal && !status.isBroadcast

/-- Local and pairable. -/
def isPairableHost (status : Status) : Bool := status.isLocal && status.isPairable

/-- Local and broadcast. -/
def isBroadcaster (status : Status) : Bool := status.isLocal && status.isBroadcast

/-- Remote and broadcast. -/
def isSniffer (status : Status) : Bool := status.isRemote && status.isBroadcast

/-- May pair: pairable hosts and paired clients. -/
def mayPair (status : Status) : Bool := status.isPairableHost || status.isPairClient

/-- A status in words. -/
def text (status : Status) : String :=
  "addr=" ++ toString status.address.toNat ++ " serial=" ++ toString status.serial.toNat ++
    " class=" ++ toString status.deviceClass.toNat ++ " flags=" ++ status.flags.text

end Status

end DeviceBus
