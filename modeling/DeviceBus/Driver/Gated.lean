import DeviceBus.Streaming.Streamer

/-!
# Behind the pairing gate

What a pairable driver wraps: nothing, an application that writes down what reaches it, or a
streamer.
-/

namespace DeviceBus

/-- An application behind the pairing gate. -/
structure Application where
  /-- Whether it handles data packets. -/
  handlesData : Bool
  /-- What it puts into announces. -/
  payload : Option Bytes
  deriving DecidableEq, Repr

/-- What a pairable driver wraps. -/
inductive Gated where
  /-- Takes part in pairing and handles nothing. -/
  | idle
  /-- A watched application. -/
  | application (application : Application)
  /-- The streaming half of a streaming driver. -/
  | streamer (streamer : Streamer)

namespace Gated

/-- A data packet that passed the gate. -/
def onData (packet : Packet) (ctx : Context) (gated : Gated) :
    Reply Gated :=
  match gated with
  | idle => ⟨false, gated, ctx⟩
  | application app => ⟨app.handlesData, gated, ctx.note (.gatedData ctx.handle packet)⟩
  | streamer s =>
    let reply := s.onData packet ctx
    ⟨reply.handled, streamer reply.driver, reply.context⟩

/-- Fill in an announce. -/
def fill (cp : ControlPacket) (gated : Gated) : ControlPacket :=
  match gated with
  | application app =>
    match app.payload with
    | some payload => { cp with payload }
    | none => cp
  | _ => cp

/-- The driver's device is connected. -/
def connected (ctx : Context) (gated : Gated) : Gated × Context :=
  match gated with
  | idle => (gated, ctx)
  | application _ => (gated, ctx.note (.gatedConnected ctx.handle ctx.status))
  | streamer s => (streamer (s.follow ctx), ctx)

/-- The driver's device is gone. -/
def removed (ctx : Context) (gated : Gated) : Gated × Context :=
  match gated with
  | idle => (gated, ctx)
  | application _ => (gated, ctx.note (.gatedRemoved ctx.handle ctx.status))
  | streamer s => (streamer s.disconnect, ctx)

/-- A bond was made. -/
def paired (partner : Identity) (ctx : Context) (gated : Gated) : Context :=
  match gated with
  | application _ => ctx.note (.paired ctx.handle partner)
  | _ => ctx

/-- The bond ended. -/
def unpaired (ctx : Context) (gated : Gated) : Gated × Context :=
  match gated with
  | idle => (gated, ctx)
  | application _ => (gated, ctx.note (.unpaired ctx.handle ctx.status))
  | streamer s => (streamer s.cancel, ctx)

/-- The name of what is behind the gate. -/
def name : Gated → String
  | idle => "pairable"
  | application _ => "handler"
  | streamer _ => "streaming"

end Gated

end DeviceBus
