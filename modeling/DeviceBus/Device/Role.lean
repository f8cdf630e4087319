import DeviceBus.Flags

/-!
# Driver roles

A role is a fixed combination of mode flags. Roles that own an address announce it; remote roles
follow a peer; broadcast roles hear all traffic of their class.
-/

namespace DeviceBus

/-- The part a driver plays on the bus. -/
inductive Role where
  /-- Uses another device: finds a peer and follows its address. -/
  | virtual
  /-- Offers a resource under its own address. -/
  | host
  /-- A host that pairs with a driver of its class. -/
  | pairableHost
  /-- Announces itself and hears all traffic of its class. -/
  | broadcast
  /-- Hears all traffic of its class without being enumerated. -/
  | sniffer
  /-- The client half of a pair: announces itself and hears its class. -/
  | pairedClient
  deriving DecidableEq, Repr, Inhabited

namespace Role

open DeviceFlags in
/-- The mode flags of a role. -/
def flags : Role → DeviceFlags
  | .virtual => remote
  | .host => own
  | .pairableHost => own ∪ pairable
  | .broadcast => own ∪ DeviceFlags.broadcast
  | .sniffer => remote ∪ DeviceFlags.broadcast
  | .pairedClient => own ∪ DeviceFlags.broadcast ∪ pair

/-- Every role. -/
def all : List Role := [.virtual, .host, .pairableHost, .broadcast, .sniffer, .pairedClient]

/-- The name of a role. -/
def name : Role → String
  | .virtual => "virtual"
  | .host => "host"
  | .pairableHost => "pairable-host"
  | .broadcast => "broadcast"
  | .sniffer => "sniffer"
  | .pairedClient => "paired-client"

/-- The role of a name. -/
def ofName? (name : String) : Option Role := all.find? fun role => role.name == name

/-- Whether a role owns its address. -/
def isLocal (role : Role) : Bool := role.flags.contains DeviceFlags.own

end Role

end DeviceBus
