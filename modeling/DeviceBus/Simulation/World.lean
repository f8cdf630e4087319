import DeviceBus.Simulation.Site

/-!
# A world of nodes

Sites, the medium between them and one clock that stands still unless it is moved. Loops of nodes
and of streams are tasks in a queue: a task that was woken runs when its turn comes, does all it
can do without time passing, and what it sends wakes the nodes that receive it.

Two drivers that answer each other's data can keep a world busy forever, so the tasks and rounds
of one settling are limited; the limit lies far beyond what settles at all.
-/

namespace DeviceBus

/-- A loop that can be woken. -/
inductive Task where
  /-- The loop of a node. -/
  | node (site : Nat)
  /-- A streaming loop of a driver. -/
  | stream (site : Nat) (handle : Handle) (number : Nat)
  deriving DecidableEq, Repr

/-- Nodes on one clock. -/
structure World where
  now : Nat
  medium : Medium
  sites : List Site
  /-- The tasks that were woken, first one first. -/
  ready : List Task
  /-- The events of the sites since they were last taken. -/
  events : List (Nat × Event)
  /-- The notes since they were last taken. -/
  notes : List Note

namespace World

/-- A world without sites. -/
def empty : World := ⟨0, .empty, [], [], [], []⟩

/-- How many steps a settling takes at most. -/
def stepLimit : Nat := 1000000

/-- Where the frames of a new site go. -/
inductive SinkKind where
  /-- To the bus, as the site's own port. -/
  | bus
  /-- To a channel of their own. -/
  | channel
  /-- Nowhere. -/
  | discard
  deriving DecidableEq, Repr

/-- Put a node into the world, with or without a port to receive from. -/
def addSite (node : Node) (kind : SinkKind) (receives : Bool) (world : World) : World :=
  let (inlet, medium) :=
    if receives then
      let (port, medium) := world.medium.attach
      (some port, medium)
    else (none, world.medium)
  let (sink, medium) :=
    match kind, inlet with
    | .bus, some port => (Sink.port port, medium)
    | .bus, none | .discard, _ => (Sink.discard, medium)
    | .channel, _ =>
      let (index, medium) := medium.openChannel
      (Sink.channel index, medium)
  { world with medium, sites := world.sites ++ [.create node sink inlet] }

/-- Change a site. -/
def modifySite (site : Nat) (change : Site → Site) (world : World) : World :=
  { world with sites := world.sites.modify site change }

/-- What a step of a site finds. -/
def envOf (site : Site) (world : World) : Env :=
  { refusal := site.sink.refusal world.medium, now := world.now }

/-! ## Delivery -/

/-- Wake a task that does not wait for its turn already. -/
def wake (task : Task) (world : World) : World :=
  if world.ready.contains task then world else { world with ready := world.ready ++ [task] }

/-- Whether a running site has frames to handle. -/
def hasFrames (site : Site) (world : World) : Bool :=
  match site.inlet with
  | some port => site.isRunning && !(world.medium.bus.queue port).isEmpty
  | none => false

/-- Wake the running sites with frames to handle, in the order of the sites. -/
def wakeReceivers (world : World) : World :=
  (List.range world.sites.length).foldl
    (fun world i =>
      match world.sites[i]? with
      | some site => if world.hasFrames site then world.wake (.node i) else world
      | none => world)
    world

/-- Hand a frame to a sink. -/
def transmit (sink : Sink) (frame : Bytes) (world : World) : Except MediumError World :=
  (sink.send frame world.medium).map fun medium => { world with medium }.wakeReceivers

/-- Carry out one thing that a step of a site did. -/
def perform (site : Nat) (sink : Sink) (world : World) (action : Action) : World :=
  match action with
  | .sent frame =>
    match world.transmit sink frame with
    | .ok world => world
    | .error _ => world
  | .event event => { world with events := world.events ++ [(site, event)] }
  | .called _ _ => world
  | .noted note => { world with notes := world.notes ++ [note] }
  | .streamStarted handle number => world.wake (.stream site handle number)

/-- Carry out what a site's step did. -/
def performAll (site : Nat) (actions : List Action) (world : World) : World :=
  match world.sites[site]? with
  | none => world
  | some s => actions.foldl (perform site s.sink) world

/-- Let the node of a site take a step. -/
def act {α : Type} (site : Nat) (step : Env → Node → α × Node) (world : World) :
    Option α × World :=
  match world.sites[site]? with
  | none => (none, world)
  | some s =>
    let (result, node) := step (world.envOf s) s.node
    let (log, node) := node.takeLog
    (some result, (world.modifySite site fun s => { s with node }).performAll site log)

/-- Let the node of a site take a step that has no result. -/
def run (site : Nat) (step : Env → Node → Node) (world : World) : World :=
  (world.act site fun env node => ((), step env node)).2

/-- Put a request to a driver of a site. -/
def ask (site : Nat) (handle : Handle) (request : Request) (world : World) :
    Option Answer × World :=
  match world.sites[site]? with
  | none => (none, world)
  | some s =>
    match s.driver? handle with
    | none => (none, world)
    | some driver =>
      let served := driver.serve (world.envOf s) handle request
      (served.answer,
        (world.modifySite site (·.setDriver handle served.driver)).performAll site
          served.actions)

/-! ## Tasks -/

/-- The loop of a node ends: its inlet is dropped, its drivers stay with their applications. -/
def stop (site : Nat) (world : World) : World :=
  let world := world.modifySite site fun s => { s with phase := .stopped, isShutDown := true }
  match world.sites[site]?.bind (·.inlet) with
  | some port => { world with medium := world.medium.modifyBus (·.dropReceiver port) }
  | none => world

/-- Let the loop of a node do all it can do now: stop if it was told to, handle the frames that
wait, stop if there will be none any more, tick if it is time. -/
def runNode (site : Nat) : Nat → World → World
  | 0, world => world
  | fuel + 1, world =>
    match world.sites[site]? with
    | none => world
    | some s =>
      match s.phase with
      | .running ticker =>
        if s.isShutDown then world.stop site
        else
          let ticker := ticker.getD (.start world.now s.node.settings.period)
          let world := world.modifySite site fun s => { s with phase := .running (some ticker) }
          match s.inlet.bind world.medium.bus.receive with
          | some (frame, bus) =>
            let world := { world with medium := { world.medium with bus } }
            runNode site fuel (world.run site fun env node => node.receiveFrame env frame)
          | none =>
            if !s.inlet.any world.medium.bus.isAttached then world.stop site
            else if ticker.isDue world.now then
              let world :=
                world.modifySite site fun s =>
                  { s with phase := .running (some (ticker.fire world.now)) }
              runNode site fuel (world.run site Node.tick)
            else world
      | _ => world

/-- Let a streaming loop do all it can do now. -/
def runStreaming (site : Nat) (handle : Handle) (number : Nat) : Nat → World → World
  | 0, world => world
  | fuel + 1, world =>
    match world.sites[site]? with
    | none => world
    | some s =>
      match (s.driver? handle).bind fun d => d.streamer?.map fun streamer => (d, streamer) with
      | none => world
      | some (driver, streamer) =>
        let (again, frame, after) := streamer.runLoop (world.envOf s) number
        let world :=
          (world.modifySite site
              (·.setDriver handle (driver.modifyStreamer fun _ => after))).performAll
            site (frame.toList.map .sent)
        if again then runStreaming site handle number fuel world else world

/-- Let a task do all it can do now. -/
def runTask (task : Task) (world : World) : World :=
  match task with
  | .node site => runNode site stepLimit world
  | .stream site handle number => runStreaming site handle number stepLimit world

/-- Run tasks until none is woken; then the loops that were cancelled exit. -/
def settleWithin : Nat → World → World
  | 0, world => world
  | fuel + 1, world =>
    match world.ready with
    | [] => { world with sites := world.sites.map Site.reap }
    | task :: rest => settleWithin fuel ({ world with ready := rest }.runTask task)

/-- Run tasks until the world is idle. -/
def settle (world : World) : World := settleWithin stepLimit world

/-! ## Time -/

/-- The tasks that wait for a time, with that time. -/
def timers (world : World) : List (Nat × Task) :=
  ((world.sites.zipIdx).map fun (s, i) =>
      let own := match s.phase with
        | .running (some ticker) => [(ticker.due, Task.node i)]
        | _ => []
      own ++ s.streamTimers.map fun (due, handle, number) =>
        (due, Task.stream i handle number)).flatten

/-- The next time at which a task comes due. -/
def nextDue (world : World) : Option Nat := (world.timers.map (·.1)).min?

/-- Move the clock to a time and let what is due happen, in the order in which it came due. -/
def moveTo (time : Nat) (world : World) : World :=
  let world := { world with now := time }
  let due := (world.timers.filter fun timer => timer.1 ≤ time).mergeSort fun a b => a.1 ≤ b.1
  (due.foldl (fun world timer => world.wake timer.2) world).settle

/-- Let time pass from timer to timer until a time is reached. -/
def advanceTo (finish : Nat) (world : World) : World :=
  match world.nextDue with
  | none => { world with now := max finish world.now }
  | some due =>
    if _h : world.now < due ∧ due ≤ finish then
      let next := world.moveTo due
      if _h2 : next.now = due then advanceTo finish next else next
    else { world with now := max finish world.now }
termination_by finish - world.now
decreasing_by
  have hNow : (world.moveTo due).now = due := _h2
  omega

/-- Let some milliseconds pass. -/
def advance (milliseconds : Nat) (world : World) : World :=
  world.advanceTo (world.now + milliseconds)

/-- Move the clock at once by some milliseconds. -/
def jump (milliseconds : Nat) (world : World) : World :=
  world.moveTo (world.now + milliseconds)

/-! ## By hand -/

/-- Take the frames waiting for a site and handle them; the result is their number. -/
def pump (site : Nat) (world : World) : Nat × World :=
  match world.sites[site]?.bind (·.inlet) with
  | none => (0, world)
  | some port =>
    let (frames, bus) := world.medium.bus.receiveAll port
    (frames.length,
      frames.foldl (fun world frame => world.run site fun env node => node.receiveFrame env frame)
        { world with medium := { world.medium with bus } })

/-- Pump every site once, in order; the result is the number of frames. -/
def pumpRound (world : World) : Nat × World :=
  (List.range world.sites.length).foldl
    (fun (total, world) i =>
      let (count, world) := world.pump i
      (total + count, world))
    (0, world)

/-- Pump in rounds until a round finds no frame; the result is the number of frames. -/
def pumpWithin : Nat → World → Nat × World
  | 0, world => (0, world)
  | fuel + 1, world =>
    let (count, world) := world.pumpRound
    if count = 0 then (0, world)
    else
      let (later, world) := pumpWithin fuel world
      (count + later, world)

/-- Pump until no frame is left. -/
def pumpAll (world : World) : Nat × World := pumpWithin stepLimit world

/-- Whether the loop of a site has ended. A node that has stopped answers nothing. -/
def hasEnded (site : Nat) (world : World) : Bool :=
  (world.sites[site]?.map fun s => s.phase == .stopped).getD true

/-- Let the node of a site take a step that can fail, unless it has stopped. -/
def attempt {α : Type} (site : Nat) (step : Env → Node → Except BusError (α × Node))
    (world : World) : Except BusError α × World :=
  if world.hasEnded site then (.error .nodeStopped, world)
  else
    let (result, world) :=
      world.act site fun env node =>
        match step env node with
        | .ok (value, node) => (Except.ok value, node)
        | .error e => (Except.error e, node)
    (result.getD (.error .nodeStopped), world)

/-- Register a driver with a site. -/
def register (site : Nat) (profile : DriverProfile) (driver : Driver) (world : World) :
    Except BusError Handle × World :=
  world.attempt site fun _ node => node.register profile driver

/-- Unregister an entry of a site; its driver stays with its application. -/
def unregister (site : Nat) (handle : Handle) (world : World) :
    Except BusError Unit × World :=
  match world.attempt site fun env node => node.unregister env handle with
  | (.error e, world) => (.error e, world)
  | (.ok none, world) => (.ok (), world)
  | (.ok (some driver), world) =>
    (.ok (),
      world.modifySite site fun s => { s with departed := s.departed ++ [(handle, driver)] })

/-- Take the events and the notes. -/
def takeTrace (world : World) : (List (Nat × Event) × List Note) × World :=
  ((world.events, world.notes), { world with events := [], notes := [] })

end World

end DeviceBus
