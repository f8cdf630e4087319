import DeviceBus.Bytes
import DeviceBus.Medium.Error

/-!
# The in-process bus

A shared medium of ports. A frame sent by one port is queued for every other attached port, in
the order of the sends, and never for its sender. A port whose receiver is gone stays attached
until the next successful send by another port, which removes it. Detaching a port and shutting
the bus down keep the frames that are already queued.

Ports are numbered in the order they attach and keep their number for good.
-/

namespace DeviceBus

/-- One attachment to the bus. -/
structure Port where
  /-- Whether the bus still delivers to the port and takes frames from it. -/
  isAttached : Bool
  /-- Whether someone still receives. -/
  isListening : Bool
  /-- The frames waiting to be received, oldest first. -/
  queue : List Bytes
  deriving DecidableEq, Repr, Inhabited

/-- What happens to a port when another one sends: a listening port queues the frame, one without
a receiver is removed. -/
def Port.deliver (frame : Bytes) (port : Port) : Port :=
  if port.isAttached then
    if port.isListening then { port with queue := port.queue ++ [frame] }
    else { port with isAttached := false }
  else port

/-- A bus: every port that was ever attached, in order. -/
structure SharedBus where
  ports : List Port
  isShutDown : Bool
  deriving DecidableEq, Repr

namespace SharedBus

/-- A bus without ports. -/
def empty : SharedBus := ⟨[], false⟩

instance : Inhabited SharedBus := ⟨empty⟩

/-- Attach a port. Its number is the number of ports before it. -/
def attach (bus : SharedBus) : Nat × SharedBus :=
  (bus.ports.length, { bus with ports := bus.ports ++ [⟨true, true, []⟩] })

/-- Change one port. -/
def modifyPort (bus : SharedBus) (port : Nat) (change : Port → Port) : SharedBus :=
  { bus with ports := bus.ports.modify port change }

/-- Detach a port. -/
def detach (bus : SharedBus) (port : Nat) : SharedBus :=
  bus.modifyPort port fun p => { p with isAttached := false }

/-- Drop a port's receiver together with what waits for it. -/
def dropReceiver (bus : SharedBus) (port : Nat) : SharedBus :=
  bus.modifyPort port fun p => { p with isListening := false, queue := [] }

/-- Whether a port is attached. -/
def isAttached (bus : SharedBus) (port : Nat) : Bool :=
  (bus.ports[port]?.map (·.isAttached)).getD false

/-- The number of attached ports. -/
def attachedCount (bus : SharedBus) : Nat := bus.ports.countP (·.isAttached)

/-- Close the bus: every port is detached and every later send fails. -/
def shutDown (bus : SharedBus) : SharedBus :=
  { ports := bus.ports.map fun p => { p with isAttached := false }, isShutDown := true }

/-- What a send by a port would fail with. -/
def refusal (bus : SharedBus) (port : Nat) : Option MediumError :=
  if bus.isShutDown then some .shutdown
  else if bus.isAttached port then none
  else some .closed

/-- Send a frame from a port to every other port. -/
def send (bus : SharedBus) (sender : Nat) (frame : Bytes) : Except MediumError SharedBus :=
  match bus.refusal sender with
  | some e => .error e
  | none =>
    .ok
      { bus with
        ports := bus.ports.mapIdx fun i p => if i = sender then p else p.deliver frame }

/-- The frames waiting for a port. -/
def queue (bus : SharedBus) (port : Nat) : List Bytes :=
  (bus.ports[port]?.map (·.queue)).getD []

/-- Take the oldest frame waiting for a port. -/
def receive (bus : SharedBus) (port : Nat) : Option (Bytes × SharedBus) :=
  match bus.queue port with
  | [] => none
  | frame :: rest => some (frame, bus.modifyPort port fun p => { p with queue := rest })

/-- Take every frame waiting for a port. -/
def receiveAll (bus : SharedBus) (port : Nat) : List Bytes × SharedBus :=
  (bus.queue port, bus.modifyPort port fun p => { p with queue := [] })

end SharedBus

end DeviceBus
