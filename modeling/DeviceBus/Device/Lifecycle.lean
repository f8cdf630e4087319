import DeviceBus.ControlPacket
import DeviceBus.Device.Status

/-!
# What becomes of a status

An own device draws an address, keeps it through its probation or gives it up; a remote one is
found, followed and lost, and one that is merely heard is recorded. What each of these makes of the
status of its entry is defined here, and nowhere else.
-/

namespace DeviceBus

/-- The next value of a counter that stops at its maximum. -/
def countUp (counter : UInt8) : UInt8 := if counter = 255 then 255 else counter + 1

namespace Status

/-- One more tick was counted. -/
def counted (status : Status) : Status := { status with counter := countUp status.counter }

/-! ## Own devices -/

/-- An address was drawn; it has to survive before it counts. -/
def drew (address : UInt8) (status : Status) : Status :=
  { (status.unmark DeviceFlags.confirmed).mark DeviceFlags.unconfirmed with address, counter := 0 }

/-- The drawn address was confirmed. -/
def settled (status : Status) : Status :=
  { (status.unmark DeviceFlags.unconfirmed).mark DeviceFlags.confirmed with counter := 0 }

/-- The address was given up. -/
def released (status : Status) : Status :=
  { status.unmark (DeviceFlags.confirmed ∪ DeviceFlags.unconfirmed ∪ DeviceFlags.seen) with
    address := 0
    counter := 0 }

/-! ## Other devices -/

/-- The device was heard and has no driver. -/
def recorded (cp : ControlPacket) : Status where
  address := cp.address
  counter := 0
  flags := DeviceFlags.record ∪ DeviceFlags.confirmed ∪ DeviceFlags.seen
  serial := cp.serial
  deviceClass := cp.deviceClass

/-- A driver found its device. -/
def found (cp : ControlPacket) (status : Status) : Status :=
  { status.mark (DeviceFlags.confirmed ∪ DeviceFlags.seen) with
    address := cp.address
    serial := cp.serial
    counter := 0 }

/-- The device of a driver announced itself, maybe at another address. -/
def followed (cp : ControlPacket) (status : Status) : Status :=
  { status.mark DeviceFlags.seen with address := cp.address }

/-- It was taken note of that the device was seen. -/
def unseen (status : Status) : Status := { status.unmark DeviceFlags.seen with counter := 0 }

/-- The device is gone: no address, the serial number that the driver returns to, no count and no
flag but those of the role. -/
def vacated (pinned : UInt32) (status : Status) : Status :=
  ⟨0, 0, status.flags.mode, pinned, status.deviceClass⟩

end Status

end DeviceBus
