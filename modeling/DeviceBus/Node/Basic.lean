import DeviceBus.AddressFilter
import DeviceBus.Device.Lifecycle
import DeviceBus.Driver.Basic
import DeviceBus.Random.Draws
import DeviceBus.Registry
import DeviceBus.Settings

/-!
# Nodes

A node owns a registry of drivers and of records of broadcast devices, the filter of addresses
that are paired elsewhere, and its source of random addresses. It is the only place where the
address of a driver changes. What a step does to the world is appended to the node's log.
-/

namespace DeviceBus

/-- A driver and what it was registered with. -/
structure Registration where
  driver : Driver
  /-- The serial number that a remote driver returns to when its device is gone; 0 for any. -/
  requiredSerial : UInt32
  /-- The address that the first allocation tries. -/
  wantedAddress : Option UInt8
  /-- Ticks since the pairing partner announced itself. -/
  partnerSilence : UInt8

/-- What a registry entry stands for. -/
inductive Occupant where
  /-- A registered driver. -/
  | driver (registration : Registration)
  /-- A device that a broadcast driver heard. -/
  | record

/-- A registry entry. -/
structure Entry where
  status : Status
  kind : Occupant

namespace Entry

/-- Whether the entry is a record of a broadcast device. -/
def isRecord (entry : Entry) : Bool :=
  match entry.kind with
  | .record => true
  | .driver _ => false

/-- The registration, if the entry is a driver. -/
def registration? (entry : Entry) : Option Registration :=
  match entry.kind with
  | .driver registration => some registration
  | .record => none

/-- Change the status. -/
def modifyStatus (change : Status → Status) (entry : Entry) : Entry :=
  { entry with status := change entry.status }

end Entry

namespace Registry

/-- The first entry whose status has a property. -/
def findStatus? (registry : Registry Entry) (matching : Status → Bool) : Option Handle :=
  registry.find? fun entry => matching entry.status

/-- Whether an entry stands for a device. -/
def standsFor (registry : Registry Entry) (address : UInt8) (serial : UInt32) : Bool :=
  (registry.findStatus? fun s => s.address == address && s.serial == serial).isSome

/-- Whether an entry has an address. -/
def isInUse (registry : Registry Entry) (address : UInt8) : Bool :=
  (registry.findStatus? fun s => s.address == address).isSome

end Registry

/-- The logic of one node. -/
structure Node where
  settings : NodeSettings
  registry : Registry Entry
  filter : AddressFilter
  draws : Draws
  /-- What the node did since its log was last taken, oldest first. -/
  log : List Action

namespace Node

/-- A node without drivers, drawing from a given source. -/
def withDraws (settings : NodeSettings) (draws : Draws) : Node :=
  ⟨settings, .empty settings.registryCapacity, .empty settings.filterCapacity, draws, []⟩

/-- A node without drivers. Its serial number seeds the addresses it draws. -/
def create (settings : NodeSettings) : Node :=
  withDraws settings (.ofSeed settings.serial.toUInt64)

/-- Append to the log. -/
def trace (action : Action) (node : Node) : Node := { node with log := node.log ++ [action] }

/-- Queue an event of a driver. -/
def queueEvent (handle : Handle) (kind : EventKind) (node : Node) : Node :=
  node.trace (.event ⟨handle, kind⟩)

/-- Take the log. -/
def takeLog (node : Node) : List Action × Node := (node.log, { node with log := [] })

/-- The status of an entry. -/
def status? (handle : Handle) (node : Node) : Option Status :=
  (node.registry.get? handle).map (·.status)

/-- The registration of a driver. -/
def registration? (handle : Handle) (node : Node) : Option Registration :=
  (node.registry.get? handle).bind (·.registration?)

/-- Every entry with its handle and status, oldest first. -/
def statuses (node : Node) : List (Handle × Status) :=
  node.registry.toList.map fun pair => (pair.1, pair.2.status)

/-- Change the status of an entry. -/
def modifyStatus (handle : Handle) (change : Status → Status) (node : Node) : Node :=
  { node with registry := node.registry.modify handle (·.modifyStatus change) }

/-- Change the registration of a driver. -/
def modifyRegistration (handle : Handle) (change : Registration → Registration) (node : Node) :
    Node :=
  { node with
    registry := node.registry.modify handle fun entry =>
      match entry.kind with
      | .driver registration => { entry with kind := .driver (change registration) }
      | .record => entry }

/-- Call a driver. Whatever is not a driver handles nothing. -/
def call (env : Env) (handle : Handle) (callback : Callback) (node : Node) : Bool × Node :=
  match node.registry.get? handle with
  | some ⟨status, .driver registration⟩ =>
    let log := node.log ++ [.called handle callback]
    let reply := registration.driver.respond callback ⟨env, handle, status, log⟩
    (reply.handled,
      { node with
        registry :=
          node.registry.set handle
            ⟨reply.context.status, .driver { registration with driver := reply.driver }⟩
        log := reply.context.log })
  | _ => (false, node)

/-- Act in the place of an entry's driver. -/
def through {α : Type} (env : Env) (handle : Handle) (step : Context → α × Context)
    (node : Node) : Option α × Node :=
  match node.registry.get? handle with
  | some entry =>
    let (result, ctx) := step ⟨env, handle, entry.status, node.log⟩
    (some result,
      { node with
        registry := node.registry.set handle { entry with status := ctx.status }
        log := ctx.log })
  | none => (none, node)

/-- Send a control packet. One that cannot be sent is dropped. -/
def post (env : Env) (cp : ControlPacket) (node : Node) : Node :=
  match env.controlFrame cp with
  | .ok frame => node.trace (.sent frame)
  | .error _ => node

/-! ## Registration -/

/-- The serial number that a driver starts with. -/
def startSerial (settings : NodeSettings) (profile : DriverProfile) : UInt32 :=
  match profile.serial with
  | some serial => serial
  | none => if profile.role.isLocal then settings.serial else 0

/-- The status that a driver starts with. A sniffer is never enumerated and hears from the
start. -/
def startStatus (settings : NodeSettings) (profile : DriverProfile) : Status :=
  let deviceClass := if profile.deviceClass = 0 then settings.defaultClass else profile.deviceClass
  let status := Status.ofRole profile.role deviceClass (startSerial settings profile)
  if profile.role = .sniffer then status.mark DeviceFlags.confirmed else status

/-- Add a driver. An own driver gets an address with the next ticks, a remote one waits for an
announce that matches. -/
def register (profile : DriverProfile) (driver : Driver) (node : Node) :
    Except BusError (Handle × Node) :=
  let registration : Registration :=
    { driver
      requiredSerial := if profile.role.isLocal then 0 else startSerial node.settings profile
      wantedAddress := profile.wantedAddress
      partnerSilence := 0 }
  match node.registry.insert ⟨startStatus node.settings profile, .driver registration⟩ with
  | .error e => .error e
  | .ok (handle, registry) => .ok (handle, { node with registry })

/-- Take an entry out. A driver that is connected is told first. The result holds the driver as it
was left, if the entry was one. -/
def unregister (env : Env) (handle : Handle) (node : Node) :
    Except BusError (Option Driver × Node) :=
  match node.registry.get? handle with
  | none => .error (.unknownDriver handle)
  | some entry =>
    let node :=
      if !entry.isRecord && entry.status.isConnected then
        ((node.queueEvent handle .removed).call env handle .removed).2
      else node
    match node.registry.remove handle with
    | none => .error (.unknownDriver handle)
    | some (entry, registry) =>
      .ok (entry.registration?.map (·.driver), { node with registry })

end Node

end DeviceBus
