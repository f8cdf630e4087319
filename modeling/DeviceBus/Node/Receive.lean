import DeviceBus.Node.Announce

/-!
# Received frames

Announces are arbitrated, pairing packets go to the one own driver they name, data goes to every
driver that hears its sender. A frame that cannot be read changes nothing.
-/

namespace DeviceBus

namespace Node

/-- Whether a driver is the target of a pairing packet. -/
def isTarget (cp : ControlPacket) (status : Status) : Bool :=
  status.isLocal && status.address != 0 && status.address == cp.address &&
    status.serial == cp.serial

/-- A pairing packet. -/
def receivePairing (env : Env) (cp : ControlPacket) (node : Node) : Node :=
  match node.registry.findStatus? (isTarget cp) with
  | some handle => (node.call env handle (.control cp)).2
  | none => node

/-- A control packet. -/
def receiveControl (env : Env) (cp : ControlPacket) (node : Node) : Node :=
  match cp.type with
  | .hello => node.receiveAnnounce env cp
  | .pairing => node.receivePairing env cp
  | .unknown _ => node

/-- The classes of the foreign devices at an address. -/
def classesAt (address : UInt8) (node : Node) : List DeviceClass :=
  (node.statuses.filter fun pair =>
    pair.2.address == address && pair.2.isConnected && !pair.2.isLocal).map (·.2.deviceClass)

/-- Whether a driver hears data from an address where devices of some classes are: it is connected
to that address itself, its partner is there, or it hears one of the classes. -/
def hears (address : UInt8) (classes : List DeviceClass) (status : Status)
    (registration : Registration) : Bool :=
  let direct := status.isConnected && status.address == address
  let partner :=
    status.isPaired && registration.driver.partner?.any fun p => p.address == address
  let wide := status.isBroadcast && status.isConnected && classes.contains status.deviceClass
  direct || partner || wide

/-- Hand data to one entry, if it hears it. -/
def routeTo (env : Env) (packet : Packet) (classes : List DeviceClass) (node : Node)
    (handle : Handle) : Node :=
  match node.registry.get? handle with
  | some ⟨status, .driver registration⟩ =>
    if hears packet.address classes status registration then
      (node.call env handle (.data packet)).2
    else node
  | _ => node

/-- A data packet. -/
def receiveData (env : Env) (packet : Packet) (node : Node) : Node :=
  node.registry.handles.foldl (routeTo env packet (node.classesAt packet.address)) node

/-- A packet. -/
def receivePacket (env : Env) (packet : Packet) (node : Node) : Node :=
  if packet.isControl then
    match ControlPacket.decode packet.data with
    | .ok cp => node.receiveControl env cp
    | .error _ => node
  else node.receiveData env packet

/-- A frame. -/
def receiveFrame (env : Env) (frame : Bytes) (node : Node) : Node :=
  match Packet.decode frame with
  | .ok packet => node.receivePacket env packet
  | .error _ => node

end Node

end DeviceBus
