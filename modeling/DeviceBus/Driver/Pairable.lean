import DeviceBus.Driver.Gated

/-!
# Pairing

A pairable driver runs the handshake between two drivers of one class. An announce of a free peer
makes it ask; a request is answered with `ack` or `nack`; an `ack` makes the bond. While a request
is out it is repeated with every announce of its target. Once paired, data from anyone but the
partner is swallowed at the gate.

Serial number and class tell devices apart; addresses move.

## Main results

- `state_letGo`: giving up leaves no peer.
-/

namespace DeviceBus

/-- Where a driver stands with its peer. -/
inductive Standing where
  | unpaired
  /-- A request went out. -/
  | pairing (target : Identity)
  | paired (partner : Identity)
  deriving DecidableEq, Repr, Inhabited

namespace Standing

/-- The peer being paired with or bonded to. -/
def peer : Standing → Option Identity
  | unpaired => none
  | pairing target => some target
  | paired partner => some partner

/-- Whether there is a bond. -/
def isPaired : Standing → Bool
  | paired _ => true
  | _ => false

/-- The name of a state. -/
def name : Standing → String
  | unpaired => "unpaired"
  | pairing _ => "pairing"
  | paired _ => "paired"

/-- The status flags that go with a state. -/
def marks : Standing → DeviceFlags
  | unpaired => Flags.none
  | pairing _ => DeviceFlags.pairing
  | paired _ => DeviceFlags.paired

end Standing

/-- A driver that pairs, around what it wraps. -/
structure Pairable where
  state : Standing
  gated : Gated

namespace Pairable

/-- A driver without a partner. -/
def ofGated (gated : Gated) : Pairable := ⟨.unpaired, gated⟩

/-- Enter a state and set the status flags that go with it. -/
def enter (state : Standing) (ctx : Context) (driver : Pairable) : Pairable × Context :=
  ({ driver with state },
    ctx.modifyStatus fun status =>
      (status.unmark (DeviceFlags.paired ∪ DeviceFlags.pairing)).mark state.marks)

/-- Make the bond with a partner. A bond that already exists stays as it is. -/
def pairWith (partner : Identity) (ctx : Context) (driver : Pairable) : Pairable × Context :=
  if driver.state = .paired partner then (driver, ctx)
  else
    let (after, ctx) := driver.enter (.paired partner) ctx
    (after, after.gated.paired partner (ctx.queueEvent (.paired partner)))

/-- Give up the bond, or the request that is out. -/
def letGo (ctx : Context) (driver : Pairable) : Pairable × Context :=
  let (after, ctx) := driver.enter .unpaired ctx
  match driver.state with
  | .unpaired => (after, ctx)
  | .pairing _ => (after, ctx.queueEvent .pairRejected)
  | .paired _ =>
    let (gated, ctx) := after.gated.unpaired (ctx.queueEvent .unpaired)
    ({ after with gated }, ctx)

/-- Ask a peer to pair; the state changes only if the request was sent. -/
def request (target : Identity) (ctx : Context) (driver : Pairable) : Reply Pairable :=
  match ctx.askToPair target with
  | (.ok (), ctx) =>
    let (after, ctx) := driver.enter (.pairing target) ctx
    ⟨true, after, ctx⟩
  | (.error _, ctx) => ⟨false, driver, ctx⟩

/-- Whether an announce offers a peer to pair with. -/
def isEligible (cp : ControlPacket) (status : Status) : Bool :=
  cp.flags.isSafe && cp.deviceClass == status.deviceClass &&
    cp.flags.contains ControlFlags.pairable && !cp.flags.contains ControlFlags.paired

/-- An announce of another device. -/
def onAnnounce (cp : ControlPacket) (ctx : Context) (driver : Pairable) : Reply Pairable :=
  if !ctx.status.mayPair || !ctx.status.isConnected || cp.address == ctx.status.address then
    ⟨false, driver, ctx⟩
  else
    let peer : Identity := ⟨cp.address, cp.serial, cp.deviceClass⟩
    match driver.state with
    | .paired partner =>
      if partner.isSameDevice peer then ⟨true, { driver with state := .paired peer }, ctx⟩
      else ⟨false, driver, ctx⟩
    | .pairing target =>
      if target.isSameDevice peer then { driver.request peer ctx with handled := true }
      else ⟨false, driver, ctx⟩
    | .unpaired =>
      if isEligible cp ctx.status then driver.request peer ctx else ⟨false, driver, ctx⟩

/-- A pairing request. It is accepted if there is no other peer. -/
def onRequest (cp : ControlPacket) (ctx : Context) (driver : Pairable) : Reply Pairable :=
  match Identity.decode? cp.payload with
  | none => ⟨false, driver, ctx⟩
  | some requester =>
    let accept :=
      match driver.state.peer with
      | none => true
      | some peer => peer.isSameDevice requester
    match ctx.answerPairing requester accept with
    | (.error _, ctx) => ⟨false, driver, ctx⟩
    | (.ok (), ctx) =>
      if accept then
        let (after, ctx) := driver.pairWith requester ctx
        ⟨true, after, ctx⟩
      else ⟨true, driver, ctx⟩

/-- The answer to a pairing request. Only the answer of the device that was asked counts. -/
def onAnswer (cp : ControlPacket) (ctx : Context) (driver : Pairable) : Reply Pairable :=
  match Identity.decode? cp.payload with
  | none => ⟨false, driver, ctx⟩
  | some responder =>
    match driver.state with
    | .pairing target =>
      if target.isSameDevice responder then
        let (after, ctx) :=
          if cp.flags.contains ControlFlags.ack then driver.pairWith responder ctx
          else driver.letGo ctx
        ⟨true, after, ctx⟩
      else ⟨false, driver, ctx⟩
    | _ => ⟨false, driver, ctx⟩

/-- A control packet. -/
def onControl (cp : ControlPacket) (ctx : Context) (driver : Pairable) : Reply Pairable :=
  match cp.type with
  | .hello => driver.onAnnounce cp ctx
  | .pairing =>
    if cp.isPairingAnswer then driver.onAnswer cp ctx else driver.onRequest cp ctx
  | .unknown _ => ⟨false, driver, ctx⟩

/-- Let a data packet through the gate. -/
def passData (packet : Packet) (ctx : Context) (driver : Pairable) : Reply Pairable :=
  let reply := driver.gated.onData packet ctx
  ⟨reply.handled, { driver with gated := reply.driver }, reply.context⟩

/-- A data packet. A paired driver swallows what does not come from its partner. -/
def onData (packet : Packet) (ctx : Context) (driver : Pairable) : Reply Pairable :=
  match driver.state with
  | .paired partner =>
    if packet.address = partner.address then driver.passData packet ctx else ⟨true, driver, ctx⟩
  | _ => driver.passData packet ctx

/-- What a node tells the driver. -/
def respond (callback : Callback) (ctx : Context) (driver : Pairable) : Reply Pairable :=
  match callback with
  | .control cp => driver.onControl cp ctx
  | .data packet => driver.onData packet ctx
  | .connected =>
    let (gated, ctx) := driver.gated.connected ctx
    ⟨true, { driver with gated }, ctx⟩
  | .removed =>
    let (after, ctx) := driver.letGo ctx
    let (gated, ctx) := after.gated.removed ctx
    ⟨true, { after with gated }, ctx⟩
  | .partnerLost =>
    let (after, ctx) := driver.letGo ctx
    ⟨true, after, ctx⟩

/-- Giving up leaves no peer. -/
theorem state_letGo (ctx : Context) (driver : Pairable) :
    (driver.letGo ctx).1.state = .unpaired := by
  unfold letGo
  cases driver.state <;> rfl

end Pairable

end DeviceBus
