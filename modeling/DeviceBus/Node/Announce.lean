import DeviceBus.Node.Basic

/-!
# Announces

An announce is shown to every driver it may concern, oldest first. The owner of the announced
address decides whether there is a collision, and a collision ends the matter. A remote driver
whose device it is follows it; broadcast drivers of its class record the device and hear it;
drivers that may pair hear peers of their class. What nobody handled then goes through the filter
of paired devices and may connect the first remote driver that waits for such a device.
-/

namespace DeviceBus

/-- An announce sent back to flag the conflict. -/
def ControlPacket.flagged (cp : ControlPacket) : ControlPacket :=
  { cp with flags := cp.flags.insert ControlFlags.conflict }

namespace Node

/-- The partner of a driver announced itself: its silence starts anew. -/
def refreshPartner (cp : ControlPacket) (node : Node) (handle : Handle) : Node :=
  node.modifyRegistration handle fun registration =>
    let isPartner :=
      match registration.driver.partner? with
      | some partner => partner.serial == cp.serial && partner.deviceClass == cp.deviceClass
      | none => false
    if isPartner then { registration with partnerSilence := 0 } else registration

/-- Every driver whose partner announced itself took note. -/
def heard (cp : ControlPacket) (node : Node) : Node :=
  node.registry.handles.foldl (refreshPartner cp) node

/-- The device of a driver is gone. -/
def tellRemoved (env : Env) (handle : Handle) (node : Node) : Node :=
  ((node.queueEvent handle .removed).call env handle .removed).2

/-- Give up a driver's own address; the next tick draws another one. -/
def giveWay (env : Env) (handle : Handle) (node : Node) : Node :=
  match node.status? handle with
  | none => node
  | some status =>
    let released :=
      (node.modifyStatus handle (·.released)).queueEvent handle (.addressLost status.address)
    if status.isConnected then released.tellRemoved env handle else released

/-- Remember a device that a broadcast driver hears. A record that exists is refreshed, and where
a driver already stands for the device there is none. A full registry takes no record. -/
def recordDevice (cp : ControlPacket) (node : Node) : Node :=
  match node.registry.findStatus? fun s =>
      s.address == cp.address && s.serial == cp.serial with
  | some handle =>
    { node with
      registry := node.registry.modify handle fun entry =>
        if entry.isRecord then entry.modifyStatus (·.mark DeviceFlags.seen) else entry }
  | none =>
    match node.registry.insert ⟨.recorded cp, .record⟩ with
    | .ok (_, registry) => { node with registry }
    | .error _ => node

/-- Connect a remote driver to the device of an announce. -/
def adopt (env : Env) (handle : Handle) (cp : ControlPacket) (node : Node) : Node :=
  let connected :=
    (node.modifyStatus handle (·.found cp)).queueEvent handle (.connected cp.address)
  ((connected.call env handle .connected).2.call env handle (.control cp)).2

/-- How far an announce got: whether a driver handled it, and whether an entry stands for its
device already. -/
structure Scan where
  node : Node
  handled : Bool
  isClaimed : Bool

/-- What an announce met at one driver. -/
inductive Finding where
  /-- A collision, which ends the matter. -/
  | collision (node : Node)
  /-- The announce goes on to the next driver. -/
  | proceed (scan : Scan)

/-- Show an announce to a driver. -/
def Scan.deliver (env : Env) (handle : Handle) (cp : ControlPacket) (scan : Scan) : Scan :=
  let (handled, node) := scan.node.call env handle (.control cp)
  { scan with node, handled := scan.handled || handled && cp.flags.isSafe }

/-- Whether a driver owns the announced address. -/
def ownsAddress (cp : ControlPacket) (status : Status) : Bool :=
  status.isLocal && status.address != 0 && status.address == cp.address

/-- Whether a remote driver follows the announced device. -/
def follows (cp : ControlPacket) (status : Status) : Bool :=
  status.isVirtual && status.isConnected && status.serial == cp.serial &&
    status.deviceClass == cp.deviceClass

/-- The announce of an address that the driver owns. Another device there is a collision: a
confirmed owner sends the announce of an unconfirmed one back with the conflict flag, otherwise it
gives way. A conflict flagged on the owner's announce makes it give way too. -/
def visitOwner (env : Env) (handle : Handle) (status : Status) (cp : ControlPacket)
    (scan : Scan) : Finding :=
  if cp.flags.contains ControlFlags.conflict then
    .collision (scan.node.giveWay env handle)
  else if status.serial != cp.serial then
    if status.isConfirmed && cp.flags.contains ControlFlags.uncertain then
      .collision (scan.node.post env cp.flagged)
    else .collision (scan.node.giveWay env handle)
  else
    .proceed
      ({ scan with
          node := scan.node.modifyStatus handle (·.mark DeviceFlags.seen)
          isClaimed := true }.deliver env handle cp)

/-- Show an announce to one entry. -/
def visit (env : Env) (cp : ControlPacket) (handle : Handle) (scan : Scan) : Finding :=
  match scan.node.registry.get? handle with
  | none => .proceed scan
  | some entry =>
    let status := entry.status
    if entry.isRecord then .proceed scan
    else if ownsAddress cp status then visitOwner env handle status cp scan
    else if follows cp status then
      .proceed
        ({ scan with
            node := scan.node.modifyStatus handle (·.followed cp)
            isClaimed := true }.deliver env handle cp)
    else if status.isBroadcast && status.deviceClass == cp.deviceClass then
      let node :=
        if status.isConnected && !cp.flags.contains ControlFlags.uncertain then
          scan.node.recordDevice cp
        else scan.node
      .proceed ({ scan with node }.deliver env handle cp)
    else if cp.flags.isSafe && status.mayPair && status.isConnected &&
        status.deviceClass == cp.deviceClass && status.address != cp.address then
      .proceed (scan.deliver env handle cp)
    else .proceed scan

/-- Show an announce to the entries of some handles in turn. -/
def visitAll (env : Env) (cp : ControlPacket) : List Handle → Scan → Finding
  | [], scan => .proceed scan
  | handle :: rest, scan =>
    match visit env cp handle scan with
    | .collision node => .collision node
    | .proceed scan => visitAll env cp rest scan

/-- Whether a remote driver waits for the announced device. -/
def awaits (cp : ControlPacket) (status : Status) : Bool :=
  status.isVirtual && !status.isConnected && status.deviceClass == cp.deviceClass &&
    (status.serial == 0 || status.serial == cp.serial)

/-- Connect the first remote driver that waits for the announced device. -/
def discover (env : Env) (cp : ControlPacket) (node : Node) : Node :=
  match node.registry.findStatus? (awaits cp) with
  | some handle => node.adopt env handle cp
  | none => node

/-- The end of an announce that nobody handled. The announce that puts a paired device on the
filter stops here; later ones are not held back, and one without the paired flag takes the device
off. A device that an entry stands for is not discovered again. -/
def settle (env : Env) (cp : ControlPacket) (scan : Scan) : Node :=
  let paired := cp.flags.contains ControlFlags.paired
  let filtered := scan.node.filter.contains cp.address
  if !filtered && paired then
    { scan.node with filter := (scan.node.filter.add cp.address).2 }
  else
    let node :=
      if filtered && !paired then
        { scan.node with filter := scan.node.filter.remove cp.address }
      else scan.node
    if scan.isClaimed then node else node.discover env cp

/-- What showing an announce to every entry comes to. -/
def round (env : Env) (cp : ControlPacket) (node : Node) : Finding :=
  visitAll env cp (node.heard cp).registry.handles ⟨node.heard cp, false, false⟩

/-- An announce. -/
def receiveAnnounce (env : Env) (cp : ControlPacket) (node : Node) : Node :=
  match node.round env cp with
  | .collision node => node
  | .proceed scan =>
    if scan.handled || !cp.flags.isSafe then scan.node else settle env cp scan

end Node

end DeviceBus
