import DeviceBus.Driver.Request
import DeviceBus.Medium.Sink
import DeviceBus.Node.Receive
import DeviceBus.Node.Tick

/-!
# Sites

A site is a node together with what surrounds it: where its frames go, the port it receives from,
whether its own loop runs, and the drivers that were taken out of it but that their applications
still hold.
-/

namespace DeviceBus

/-- The life of a node's own loop. -/
inductive Phase where
  /-- The loop was not started; frames and ticks are given by hand. -/
  | manual
  /-- The loop runs; its ticker is there once it has run. -/
  | running (ticker : Option Ticker)
  /-- The loop has ended. -/
  | stopped
  deriving DecidableEq, Repr

/-- A node and its surroundings. -/
structure Site where
  node : Node
  sink : Sink
  /-- The port that frames are received from. -/
  inlet : Option Nat
  phase : Phase
  /-- Whether the loop was told to stop. -/
  isShutDown : Bool
  /-- Drivers that were unregistered. -/
  departed : List (Handle × Driver)

namespace Site

/-- A site whose loop was not started. -/
def create (node : Node) (sink : Sink) (inlet : Option Nat) : Site :=
  ⟨node, sink, inlet, .manual, false, []⟩

/-- Whether the loop runs. -/
def isRunning (site : Site) : Bool :=
  match site.phase with
  | .running _ => true
  | _ => false

/-- A driver that an application holds, registered or not. -/
def driver? (handle : Handle) (site : Site) : Option Driver :=
  match site.node.registration? handle with
  | some registration => some registration.driver
  | none => site.departed.lookup handle

/-- Put a changed driver back. -/
def setDriver (handle : Handle) (driver : Driver) (site : Site) : Site :=
  match site.node.registration? handle with
  | some _ =>
    { site with node := site.node.modifyRegistration handle fun r => { r with driver } }
  | none =>
    { site with
      departed := site.departed.map fun pair =>
        if pair.1 = handle then (handle, driver) else pair }

/-- Every driver that an application holds. -/
def drivers (site : Site) : List (Handle × Driver) :=
  (site.node.registry.toList.filterMap fun pair =>
      pair.2.registration?.map fun registration => (pair.1, registration.driver)) ++
    site.departed

/-- The loops of a site that have a ticker, with the time they come due. -/
def streamTimers (site : Site) : List (Nat × Handle × Nat) :=
  site.drivers.flatMap fun (handle, driver) =>
    match driver.streamer? with
    | none => []
    | some s =>
      s.loops.filterMap fun loop => loop.ticker.map fun t => (t.due, handle, loop.number)

/-- Let the loops that were cancelled exit. -/
def reap (site : Site) : Site :=
  site.drivers.foldl
    (fun site (handle, driver) =>
      match driver.streamer? with
      | none => site
      | some s =>
        if s.loops.all fun loop => s.isLive loop.number then site
        else site.setDriver handle (driver.modifyStreamer Streamer.reap))
    site

end Site

end DeviceBus
