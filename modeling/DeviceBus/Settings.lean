import DeviceBus.Device.Role
import DeviceBus.DeviceClass

/-!
# Settings

The settings of a node and of a streaming driver, with the tick counts and the interval that
follow from them, and what a driver is registered with. Durations are whole milliseconds.
-/

namespace DeviceBus

/-- The shortest period of any ticker. -/
def shortestPeriod : Nat := 1

/-- The settings of a node. -/
structure NodeSettings where
  /-- The capacity of the registry, broadcast records included. -/
  registryCapacity : Nat := 20
  /-- The period of announces and checks. -/
  tickTime : Nat := 112
  /-- How long a drawn address must survive before it is confirmed. -/
  probationTime : Nat := 254
  /-- The silence after which a device or partner counts as gone. -/
  silenceLimit : Nat := 254
  /-- The capacity of the address filter. -/
  filterCapacity : Nat := 20
  /-- The node's serial number, used by its own drivers unless they bring one. -/
  serial : UInt32 := 0
  /-- The class of drivers registered with class 0. -/
  defaultClass : DeviceClass := 0
  deriving DecidableEq, Repr, Inhabited

/-- The number of ticks that cover a window, at least one and at most 255. -/
def ticksCovering (window tick : Nat) : UInt8 :=
  let tick := max tick 1
  UInt8.ofNat (min (max ((window + tick - 1) / tick) 1) 255)

namespace NodeSettings

/-- The period in use. -/
def period (settings : NodeSettings) : Nat := max settings.tickTime shortestPeriod

/-- The ticks a drawn address waits for its confirmation. -/
def probationTicks (settings : NodeSettings) : UInt8 :=
  ticksCovering settings.probationTime settings.period

/-- The missed ticks after which an entry is removed. -/
def silenceTicks (settings : NodeSettings) : UInt8 :=
  ticksCovering settings.silenceLimit settings.period

end NodeSettings

/-- The settings of a streaming driver. -/
structure StreamSettings where
  /-- The interval of a start request that names none. -/
  usualInterval : Nat := 20
  /-- The shortest interval granted. -/
  shortestInterval : Nat := 20
  /-- The silence after which an unchanged state is sent again. -/
  repeatAfter : Nat := 500
  deriving DecidableEq, Repr, Inhabited

/-- The interval granted to a request; zero asks for the default. -/
def StreamSettings.grantedInterval (settings : StreamSettings) (requested : Nat) : Nat :=
  let interval :=
    if requested = 0 then max settings.usualInterval settings.shortestInterval
    else max requested settings.shortestInterval
  max interval shortestPeriod

/-- What a driver is registered with. -/
structure DriverProfile where
  role : Role
  /-- Class 0 stands for the node's class. -/
  deviceClass : DeviceClass
  /-- An own driver's serial number, or the only serial number a remote one connects to. -/
  serial : Option UInt32 := none
  /-- The address that an own driver tries first. -/
  wantedAddress : Option UInt8 := none
  deriving DecidableEq, Repr, Inhabited

end DeviceBus
