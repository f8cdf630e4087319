import DeviceBus.Simulation.Waiter
import DeviceBus.Simulation.World

/-!
# Running nodes

A node that was started works on its own; its application talks to it while it runs. A node that
has stopped answers nothing. Waiting for a driver lets time pass until the driver is ready, the
node stops or the wait runs out.
-/

namespace DeviceBus

namespace World

/-- Start the loop of a site; the result is the number of entries. The first tick is at once. -/
def start (site : Nat) (world : World) : Nat × World :=
  match world.sites[site]? with
  | none => (0, world)
  | some s =>
    (s.node.registry.size,
      ((world.modifySite site fun s => { s with phase := .running none }).wake
        (.node site)).settle)

/-- Tell the loop of a site to stop. -/
def shutDown (site : Nat) (world : World) : World :=
  ((world.modifySite site fun s => { s with isShutDown := true }).wake (.node site)).settle

/-- Shut the bus down; the loops that receive from it end. -/
def shutDownBus (world : World) : World :=
  let world := { world with medium := world.medium.modifyBus (·.shutDown) }
  ((List.range world.sites.length).foldl (fun world i => world.wake (.node i)) world).settle

/-- Put a question to the node of a site, which must not have stopped. -/
def query {α : Type} (site : Nat) (question : Node → α) (world : World) :
    Except BusError α :=
  match world.sites[site]? with
  | some s => if world.hasEnded site then .error .nodeStopped else .ok (question s.node)
  | none => .error .nodeStopped

/-- Whether a site was told to stop, or stopped by itself. -/
def isStopped (site : Nat) (world : World) : Bool :=
  (world.sites[site]?.map (·.isShutDown)).getD true

/-- Let an application that waits and the node of a site do all that the two can do now. A node that
does not run answers nothing. -/
def attend (site : Nat) (world : World) (waiter : Waiter) : Waiter :=
  match _h : waiter.phase with
  | .asking =>
    if world.sites[site]?.any (·.isRunning) then
      attend site world (waiter.answer (world.query site (·.status? waiter.handle)))
    else waiter
  | _ =>
    match _h2 : waiter.read with
    | some next => attend site world next
    | none => waiter
termination_by waiter.pending
decreasing_by
  · exact Waiter.pending_answer _h _
  · exact Waiter.pending_read _h2

/-- The events of a site that are new since another world. -/
def freshEvents (site : Nat) (since world : World) : List Event :=
  ((world.events.drop since.events.length).filter (·.1 == site)).map (·.2)

/-- Let time pass until a result is there or the deadline is reached. -/
def waitTo (site : Nat) (waiter : Waiter) (deadline : Nat) (world : World) :
    Option (Except BusError Status) × World :=
  match world.nextDue with
  | none => (none, { world with now := max deadline world.now })
  | some due =>
    if _h : world.now < due ∧ due ≤ deadline then
      let next := world.moveTo due
      if due = deadline then (none, next)
      else if next.isStopped site then (some (.error .nodeStopped), next)
      else
        let waiter := next.attend site (waiter.publish (freshEvents site world next))
        match waiter.result? with
        | some result => (some result, next)
        | none =>
          if _h2 : next.now = due then waitTo site waiter deadline next else (none, next)
    else (none, { world with now := max deadline world.now })
termination_by deadline - world.now
decreasing_by
  have hNow : (world.moveTo due).now = due := _h2
  omega

/-- Wait until a driver is ready, at most some milliseconds. -/
def wait (site : Nat) (handle : Handle) (ready : Status → Bool) (timeout : Nat)
    (world : World) : Except BusError Status × World :=
  if world.isStopped site then (.error .nodeStopped, world)
  else
    let waiter := Waiter.subscribe handle ready
    let waiter := if timeout = 0 then waiter else world.attend site waiter
    match waiter.result? with
    | some result => (result, world)
    | none =>
      match world.waitTo site waiter (world.now + timeout) with
      | (some result, world) => (result, world)
      | (none, world) => (.error (.timeout timeout), world)

end World

end DeviceBus
