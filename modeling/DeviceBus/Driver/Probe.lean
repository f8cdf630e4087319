import DeviceBus.Driver.Context

/-!
# Probes

A probe is a driver for watching a node: it writes down every callback and reacts in a few ways
that are fixed when it is made.
-/

namespace DeviceBus

/-- A driver that writes down what it is told. -/
structure Probe where
  /-- Whether it handles control packets. -/
  handlesControl : Bool := false
  /-- Whether it handles data packets. -/
  handlesData : Bool := false
  /-- What it answers to a data packet. -/
  reply : Option Bytes := none
  /-- What it puts into announces: flags to set, and the payload. -/
  filling : Option (ControlFlags × Bytes) := none
  /-- The partner it claims to have. -/
  partner : Option Identity := none
  /-- Whom it asks to pair when its device is connected. -/
  target : Option Identity := none
  /-- The flags it sets on its status at a control packet. -/
  marks : DeviceFlags := Flags.none
  deriving DecidableEq, Repr

namespace Probe

/-- Answer a data packet. -/
def answer (ctx : Context) (probe : Probe) : Context :=
  match probe.reply with
  | none => ctx
  | some data =>
    let (result, ctx) := ctx.send data
    ctx.note (.replied ctx.handle result)

/-- Ask for a pairing. -/
def ask (ctx : Context) (probe : Probe) : Context :=
  match probe.target with
  | none => ctx
  | some target =>
    let (result, ctx) := ctx.askToPair target
    ctx.note (.requested ctx.handle result)

/-- What a node tells the driver. -/
def respond (callback : Callback) (ctx : Context) (probe : Probe) : Bool × Context :=
  match callback with
  | .control cp =>
    (probe.handlesControl,
      (ctx.note (.control ctx.handle cp)).modifyStatus (·.mark probe.marks))
  | .data packet => (probe.handlesData, probe.answer (ctx.note (.data ctx.handle packet)))
  | .connected => (true, probe.ask (ctx.note (.connected ctx.handle ctx.status)))
  | .removed => (true, ctx.note (.removed ctx.handle ctx.status))
  | .partnerLost => (true, ctx.note (.partnerLost ctx.handle ctx.status))

/-- Fill in an announce. -/
def fill (cp : ControlPacket) (probe : Probe) : ControlPacket :=
  match probe.filling with
  | none => cp
  | some (flags, payload) => { cp with flags := cp.flags.insert flags, payload }

end Probe

end DeviceBus
