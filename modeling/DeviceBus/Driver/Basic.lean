import DeviceBus.Driver.Console
import DeviceBus.Driver.Pairable
import DeviceBus.Driver.Probe

/-!
# Drivers

A driver is one participant on the bus, registered with the node that owns it. The node calls it
when something concerns it; whatever a driver does not care about it leaves unhandled.
-/

namespace DeviceBus

/-- A driver. -/
inductive Driver where
  /-- Cares about nothing. -/
  | quiet
  /-- Writes down everything. -/
  | probe (probe : Probe)
  /-- Pairs with a peer of its class. -/
  | pairable (driver : Pairable)
  /-- Receives log lines. -/
  | console (console : Console)
  /-- Sends log lines. -/
  | logger (client : LogClient)

namespace Driver

/-- What a node tells the driver. -/
def respond (callback : Callback) (ctx : Context) (driver : Driver) : Reply Driver :=
  match driver with
  | quiet => ⟨false, driver, ctx⟩
  | probe p =>
    let (handled, ctx) := p.respond callback ctx
    ⟨handled, driver, ctx⟩
  | pairable p =>
    let reply := p.respond callback ctx
    ⟨reply.handled, pairable reply.driver, reply.context⟩
  | console c =>
    match callback with
    | .data packet =>
      let (handled, after) := c.onData packet
      ⟨handled, console after, ctx⟩
    | _ => ⟨false, driver, ctx⟩
  | logger client =>
    let (handled, after) := client.respond callback ctx
    ⟨handled, logger after, ctx⟩

/-- Fill in an announce, and the notes about it. -/
def fill (status : Status) (cp : ControlPacket) (driver : Driver) : ControlPacket × List Note :=
  match driver with
  | probe p => (p.fill cp, [.filling status])
  | pairable p => (p.gated.fill cp, [])
  | _ => (cp, [])

/-- The peer being paired with or bonded to. -/
def partner? : Driver → Option Identity
  | probe p => p.partner
  | pairable p => p.state.peer
  | _ => none

/-- The name of the kind of driver. -/
def name : Driver → String
  | quiet => "driver"
  | probe _ => "recorder"
  | pairable p => p.gated.name
  | console _ => "console"
  | logger _ => "log-broadcaster"

end Driver

end DeviceBus
