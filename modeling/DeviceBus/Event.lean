import DeviceBus.Device.Status
import DeviceBus.Handle

/-!
# Lifecycle events

What a node tells its application about a driver.
-/

namespace DeviceBus

/-- What happened to a driver. -/
inductive EventKind where
  /-- An own address was confirmed, or a peer found. -/
  | connected (address : UInt8)
  /-- The device left the bus or lost its address. -/
  | removed
  /-- A bond was made. -/
  | paired (partner : Identity)
  /-- The bond ended. -/
  | unpaired
  /-- A pairing that was under way ended without a bond. -/
  | pairRejected
  /-- An own address was drawn. -/
  | addressDrawn (address : UInt8)
  /-- An own address was lost to another device. -/
  | addressLost (address : UInt8)
  deriving DecidableEq, Repr

/-- An event in words. -/
def EventKind.text : EventKind → String
  | .connected address => "connected at " ++ toString address.toNat
  | .removed => "removed"
  | .paired partner => "paired with " ++ partner.text
  | .unpaired => "unpaired"
  | .pairRejected => "pairing rejected"
  | .addressDrawn address => "address " ++ toString address.toNat ++ " assigned"
  | .addressLost address => "lost address " ++ toString address.toNat

/-- An event of one driver. -/
structure Event where
  handle : Handle
  kind : EventKind
  deriving DecidableEq, Repr

end DeviceBus
