import DeviceBus.Driver.Note
import DeviceBus.Event

/-!
# What a driver acts through

A callback works on the status of its driver's entry and leaves a trace: the frames it sent, the
events it queued, the callbacks that ran, in the order in which that happened. The trace is what
a node does to the world; whoever runs the node delivers it.

Sends are decided by the environment of the step. One step sees one answer: either every send is
taken, or every send fails in the same way.
-/

namespace DeviceBus

/-- What a step finds around its node. -/
structure Env where
  /-- What every send fails with, if sends fail. -/
  refusal : Option MediumError
  /-- The time in milliseconds. -/
  now : Nat
  /-- Whether background loops can be started. -/
  canSpawn : Bool := true
  deriving Repr

namespace Env

/-- The frame that sending a packet puts on the bus. -/
def transmit (packet : Packet) (env : Env) : Except BusError Bytes :=
  match env.refusal with
  | some e => .error (.medium e)
  | none => .ok packet.toBytes

/-- The frame that sending a payload to an address puts on the bus. -/
def dataFrame (address : UInt8) (data : Bytes) (env : Env) : Except BusError Bytes :=
  match Packet.ofData address data with
  | .error e => .error (.frame e)
  | .ok packet => env.transmit packet

/-- The frame that sending a control packet puts on the bus. -/
def controlFrame (cp : ControlPacket) (env : Env) : Except BusError Bytes :=
  match cp.toPacket with
  | .error e => .error (.frame e)
  | .ok packet => env.transmit packet

end Env

/-- What a node tells one of its drivers. -/
inductive Callback where
  /-- A control packet that concerns the driver. -/
  | control (cp : ControlPacket)
  /-- A data packet routed to the driver. -/
  | data (packet : Packet)
  /-- The driver's device is connected. -/
  | connected
  /-- The driver's device is gone. -/
  | removed
  /-- The driver's partner went silent. -/
  | partnerLost
  deriving DecidableEq, Repr

/-- One thing that a step did. -/
inductive Action where
  /-- A frame was sent. -/
  | sent (frame : Bytes)
  /-- An event was queued. -/
  | event (event : Event)
  /-- A driver was called. -/
  | called (handle : Handle) (callback : Callback)
  /-- A watched driver wrote a note. -/
  | noted (note : Note)
  /-- A driver started a streaming loop. -/
  | streamStarted (handle : Handle) (number : Nat)

/-- The place of one driver during a callback. -/
structure Context where
  env : Env
  handle : Handle
  status : Status
  /-- The trace so far, oldest first. -/
  log : List Action

/-- What a control packet is sent with to ask for a pairing. -/
def askingFlags : ControlFlags :=
  ⟨(DeviceFlags.remote ∪ DeviceFlags.confirmed ∪ DeviceFlags.seen).bits⟩

/-- A pairing packet for a target, with the sender's identity as payload. -/
def pairingMessage (target : Identity) (flags : ControlFlags) (sender : Identity) : ControlPacket :=
  { type := .pairing
    address := target.address
    flags
    deviceClass := target.deviceClass
    serial := target.serial
    payload := sender.encode }

namespace Context

/-- Add to the trace. -/
def trace (action : Action) (ctx : Context) : Context := { ctx with log := ctx.log ++ [action] }

/-- Queue an event of the driver. -/
def queueEvent (kind : EventKind) (ctx : Context) : Context := ctx.trace (.event ⟨ctx.handle, kind⟩)

/-- Write a note. -/
def note (note : Note) (ctx : Context) : Context := ctx.trace (.noted note)

/-- Record the frame of a send, if it was sent. -/
def conclude (result : Except BusError Bytes) (ctx : Context) :
    Except BusError Unit × Context :=
  match result with
  | .ok frame => (.ok (), ctx.trace (.sent frame))
  | .error e => (.error e, ctx)

/-- Send data under the driver's address. -/
def send (data : Bytes) (ctx : Context) : Except BusError Unit × Context :=
  if ctx.status.address = 0 then (.error .notConnected, ctx)
  else ctx.conclude (ctx.env.dataFrame ctx.status.address data)

/-- Send a control packet. -/
def post (cp : ControlPacket) (ctx : Context) : Except BusError Unit × Context :=
  ctx.conclude (ctx.env.controlFrame cp)

/-- Ask a device to pair with this driver. -/
def askToPair (target : Identity) (ctx : Context) : Except BusError Unit × Context :=
  if ctx.status.isConnected then
    ctx.post (pairingMessage target askingFlags ctx.status.identity)
  else (.error .notConnected, ctx)

/-- Accept or refuse a pairing request. -/
def answerPairing (requester : Identity) (accept : Bool) (ctx : Context) :
    Except BusError Unit × Context :=
  let flags := if accept then ControlFlags.ack else ControlFlags.nack
  ctx.post (pairingMessage requester flags ctx.status.identity)

/-- Change the status. -/
def modifyStatus (change : Status → Status) (ctx : Context) : Context :=
  { ctx with status := change ctx.status }

end Context

/-- What a callback leaves behind: whether it handled what it was told, and the driver and its
place afterwards. -/
structure Reply (δ : Type) where
  handled : Bool
  driver : δ
  context : Context

end DeviceBus
