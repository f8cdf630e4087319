import DeviceBus.Medium.SharedBus

/-!
# Packet sinks

Where finished frames go: onto a channel, onto a shared bus, or nowhere. Sending never waits. The
`Medium` holds everything that sinks lead to.
-/

namespace DeviceBus

/-- An unbounded queue with one receiver. -/
structure Channel where
  isListening : Bool
  queue : List Bytes
  deriving DecidableEq, Repr, Inhabited

/-- The bus and the channels that sinks lead to. -/
structure Medium where
  bus : SharedBus
  channels : List Channel
  deriving DecidableEq, Repr, Inhabited

/-- Where frames go. -/
inductive Sink where
  /-- The channel of a number. -/
  | channel (index : Nat)
  /-- The bus, as the port of a number. -/
  | port (index : Nat)
  /-- Nowhere; for nodes that only listen. -/
  | discard
  deriving DecidableEq, Repr, Inhabited

namespace Medium

/-- A bus without ports and no channels. -/
def empty : Medium := ⟨.empty, []⟩

/-- Open a channel. -/
def openChannel (medium : Medium) : Nat × Medium :=
  (medium.channels.length, { medium with channels := medium.channels ++ [⟨true, []⟩] })

/-- Attach a port to the bus. -/
def attach (medium : Medium) : Nat × Medium :=
  let attached := medium.bus.attach
  (attached.1, { medium with bus := attached.2 })

/-- Change the bus. -/
def modifyBus (medium : Medium) (change : SharedBus → SharedBus) : Medium :=
  { medium with bus := change medium.bus }

/-- Change one channel. -/
def modifyChannel (medium : Medium) (index : Nat) (change : Channel → Channel) : Medium :=
  { medium with channels := medium.channels.modify index change }

/-- Whether someone receives from a channel. -/
def isListening (medium : Medium) (index : Nat) : Bool :=
  (medium.channels[index]?.map (·.isListening)).getD false

/-- Drop a channel's receiver together with what waits for it. -/
def dropChannelReceiver (medium : Medium) (index : Nat) : Medium :=
  medium.modifyChannel index fun _ => ⟨false, []⟩

/-- Take everything that waits on a channel. -/
def receiveChannel (medium : Medium) (index : Nat) : List Bytes × Medium :=
  ((medium.channels[index]?.map (·.queue)).getD [],
   medium.modifyChannel index fun c => { c with queue := [] })

end Medium

namespace Sink

/-- What a send would fail with. -/
def refusal (sink : Sink) (medium : Medium) : Option MediumError :=
  match sink with
  | .channel index => if medium.isListening index then none else some .closed
  | .port index => medium.bus.refusal index
  | .discard => none

/-- Hand one frame to the medium. -/
def send (sink : Sink) (frame : Bytes) (medium : Medium) : Except MediumError Medium :=
  match sink with
  | .channel index =>
    if medium.isListening index then
      .ok (medium.modifyChannel index fun c => { c with queue := c.queue ++ [frame] })
    else .error .closed
  | .port index => (medium.bus.send index frame).map fun bus => { medium with bus }
  | .discard => .ok medium

/-- Whether nothing will ever receive frames sent here. -/
def isClosed (sink : Sink) (medium : Medium) : Bool :=
  match sink with
  | .channel index => !medium.isListening index
  | .port index => !medium.bus.isAttached index
  | .discard => false

/-- A send fails exactly with the refusal of the sink. -/
theorem send_eq_error_iff (sink : Sink) (frame : Bytes) (medium : Medium) (e : MediumError) :
    sink.send frame medium = .error e ↔ sink.refusal medium = some e := by
  cases sink with
  | channel index =>
    simp only [send, refusal]
    split <;> simp [eq_comm]
  | port index =>
    simp only [send, refusal, SharedBus.send]
    split <;> rename_i h <;> simp [h, Except.map, eq_comm]
  | discard => simp [send, refusal]

end Sink

end DeviceBus
