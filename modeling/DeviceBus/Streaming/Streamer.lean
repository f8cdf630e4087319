import DeviceBus.Driver.Context
import DeviceBus.Settings
import DeviceBus.Streaming.LastSent
import DeviceBus.Ticker

/-!
# Streaming

A host streams its state to a client: a background loop polls the state once per interval and
sends it when it is worth sending. A client records the states that arrive and can ask the host
to start and to stop. Both sides live in one `Streamer`; which side it plays follows from the role
of its driver.

Loops are numbered. A streamer has at most one current loop, which stays current after it was
cancelled until it exits or a new one is started; a loop that is no longer current has nothing to
say. A loop that is cancelled exits the next time it runs. The count of loops has no end; 64 bits
hold it until 2 ^ 64 loops have been started.
-/

namespace DeviceBus

/-- What a streamer reports about its loop. -/
inductive StreamPhase where
  | stopped
  | streaming
  /-- Cancelled, but the loop has not exited yet. -/
  | stopping
  deriving DecidableEq, Repr, Inhabited

/-- A stream state as text. -/
def StreamPhase.text : StreamPhase → String
  | .stopped => "stopped"
  | .streaming => "streaming"
  | .stopping => "stopping"

/-- A state that a client received. -/
structure Sample where
  timestamp : UInt32
  state : Bytes
  deriving DecidableEq, Repr

/-- The current loop as its streamer sees it. -/
structure StreamTask where
  number : Nat
  isCancelled : Bool
  deriving DecidableEq, Repr

/-- A loop: its number, its interval, its ticker once it has run, and what it sent last. -/
structure StreamLoop where
  number : Nat
  interval : Nat
  ticker : Option Ticker
  lastSent : LastSent
  deriving DecidableEq, Repr

/-- The ticker that a loop goes by. -/
def StreamLoop.beat (now : Nat) (loop : StreamLoop) : Ticker :=
  loop.ticker.getD (.start now loop.interval)

/-- A loop whose ticker fired. -/
def StreamLoop.ticked (now : Nat) (loop : StreamLoop) : StreamLoop :=
  { loop with ticker := some ((loop.beat now).fire now) }

/-- The streaming half of a driver. -/
structure Streamer where
  settings : StreamSettings
  /-- When the driver was built; timestamps count from here. -/
  builtAt : Nat
  /-- The address that states and requests go out under. -/
  address : Option UInt8
  state : StreamPhase
  received : Option Sample
  nextNumber : Nat
  current : Option StreamTask
  /-- The loops that have not exited. -/
  loops : List StreamLoop
  /-- The states that polls will meet; the last one stays. -/
  states : List (Option Bytes)
  polls : Nat
  /-- Whether the application writes notes. -/
  isWatched : Bool
  /-- Whether the application handles the commands left to it. -/
  handlesCommands : Bool

namespace Streamer

/-- A streamer that was just built. -/
def create (settings : StreamSettings) (now : Nat) (states : List (Option Bytes))
    (isWatched handlesCommands : Bool) : Streamer :=
  { settings, builtAt := now, address := none, state := .stopped, received := none, nextNumber := 0
    current := none, loops := [], states, polls := 0, isWatched, handlesCommands }

/-- Milliseconds since the driver was built, in 32 bits that wrap. -/
def timestamp (now : Nat) (streamer : Streamer) : UInt32 := UInt32.ofNat (now - streamer.builtAt)

/-! ## The loop's life -/

/-- Whether a loop is current and not cancelled. -/
def isLive (number : Nat) (streamer : Streamer) : Bool :=
  streamer.current == some ⟨number, false⟩

/-- Whether there is a current loop that is not cancelled. -/
def isRunning (streamer : Streamer) : Bool :=
  match streamer.current with
  | some task => !task.isCancelled
  | none => false

/-- A streamer with a new loop. -/
def spawn (interval : Nat) (streamer : Streamer) : Streamer :=
  { streamer with
    nextNumber := streamer.nextNumber + 1
    current := some ⟨streamer.nextNumber, false⟩
    state := .streaming
    loops := streamer.loops ++
      [⟨streamer.nextNumber, interval, none, .empty streamer.settings.repeatAfter⟩] }

/-- What a start gives: the interval granted, the number of the loop if one was started, and the
streamer afterwards. -/
structure Started where
  interval : Nat
  spawned : Option Nat
  streamer : Streamer

/-- Start a loop unless one is running. -/
def start (env : Env) (requested : Nat) (streamer : Streamer) : Except BusError Started :=
  if env.canSpawn then
    let interval := streamer.settings.grantedInterval requested
    if streamer.isRunning then .ok ⟨interval, none, streamer⟩
    else .ok ⟨interval, some streamer.nextNumber, streamer.spawn interval⟩
  else .error (.streamingUnavailable "no scheduler runs here")

/-- Ask the current loop to exit. -/
def cancel (streamer : Streamer) : Streamer :=
  match streamer.current with
  | some task =>
    { streamer with
      current := some { task with isCancelled := true }
      state := if streamer.state = .streaming then .stopping else streamer.state }
  | none => streamer

/-- A loop exits. Only the current one changes what is reported. -/
def retire (number : Nat) (streamer : Streamer) : Streamer :=
  let left := { streamer with loops := streamer.loops.filter (·.number != number) }
  if (streamer.current.map (·.number)) = some number then
    { left with current := none, state := .stopped }
  else left

/-! ## Polling -/

/-- What the application has to stream now. -/
def nextState (streamer : Streamer) : Option Bytes × Streamer :=
  let polled := { streamer with polls := streamer.polls + 1 }
  match streamer.states with
  | [] => (none, polled)
  | [state] => (state, polled)
  | state :: rest => (state, { polled with states := rest })

/-- Replace a loop. -/
def setLoop (loop : StreamLoop) (streamer : Streamer) : Streamer :=
  { streamer with
    loops := streamer.loops.map fun other =>
      if other.number = loop.number then loop else other }

/-- Whether a failed send ends the stream. -/
def endsStream : BusError → Bool
  | .medium .closed | .medium .shutdown => true
  | .frame (.payloadTooLarge _ _) => true
  | _ => false

/-- What a turn of a loop gives: the frame that was sent, if there was one, whether the loop goes
on, and the streamer afterwards. -/
structure Turned where
  frame : Option Bytes
  goesOn : Bool
  streamer : Streamer

/-- One turn of a loop whose ticker is due. A loop that does not go on has yet to exit. -/
def turn (env : Env) (loop : StreamLoop) (streamer : Streamer) : Turned :=
  let ticking := loop.ticked env.now
  match streamer.nextState with
  | (none, after) => ⟨none, false, after⟩
  | (some state, after) =>
    if stateLimit < state.length then ⟨none, false, after⟩
    else if !loop.lastSent.isWorthSending state env.now then ⟨none, true, after.setLoop ticking⟩
    else
      match after.address with
      | none => ⟨none, true, after.setLoop ticking⟩
      | some address =>
        let message := StreamCommand.state (after.timestamp env.now) state
        match env.dataFrame address message.toBytes with
        | .ok frame =>
          ⟨some frame, true,
            after.setLoop { ticking with lastSent := loop.lastSent.remember state env.now }⟩
        | .error e =>
          if endsStream e then ⟨none, false, after⟩ else ⟨none, true, after.setLoop ticking⟩

/-- The exit of a loop that does not go on, as part of its turn. -/
def Turned.close (number : Nat) (turned : Turned) : Option Bytes × Streamer :=
  (turned.frame, if turned.goesOn then turned.streamer else turned.streamer.retire number)

/-- A turn of a loop, and its exit if it does not go on. -/
def poll (env : Env) (loop : StreamLoop) (streamer : Streamer) : Option Bytes × Streamer :=
  (streamer.turn env loop).close loop.number

/-- Let a loop run: a loop that is not live exits, one whose ticker is due takes a turn, any other
one waits. The result also tells whether the loop wants to run again at once. -/
def runLoop (env : Env) (number : Nat) (streamer : Streamer) :
    Bool × Option Bytes × Streamer :=
  match streamer.loops.find? (·.number == number) with
  | none => (false, none, streamer)
  | some loop =>
    if streamer.isLive number then
      if (loop.beat env.now).isDue env.now then
        (true, streamer.poll env loop)
      else (false, none, streamer)
    else (false, none, streamer.retire number)

/-- Let every loop exit that is not live. -/
def reap (streamer : Streamer) : Streamer :=
  streamer.loops.foldl
    (fun s loop => if s.isLive loop.number then s else s.retire loop.number) streamer

/-! ## Requests of the client side -/

/-- The frame that carries a command to the other side. -/
def commandFrame (env : Env) (command : StreamCommand) (streamer : Streamer) :
    Except BusError Bytes :=
  match streamer.address with
  | none => .error .notConnected
  | some address => env.dataFrame address command.toBytes

/-- The request to stream at an interval, which is cut to 32 bits. -/
def askStart (env : Env) (interval : Nat) (streamer : Streamer) :
    Except BusError Bytes :=
  streamer.commandFrame env (.start (UInt32.ofNat (min interval 0xFFFFFFFF)))

/-- The request to stop streaming. -/
def askStop (env : Env) (streamer : Streamer) : Except BusError Bytes :=
  streamer.commandFrame env .stop

/-! ## What the pairing gate lets through -/

/-- Let the application write a note. -/
def noteTo (ctx : Context) (note : Note) (streamer : Streamer) : Context :=
  if streamer.isWatched then ctx.note note else ctx

/-- A command on the host side. -/
def serveHost (command : StreamCommand) (ctx : Context) (streamer : Streamer) :
    Reply Streamer :=
  match command with
  | .start interval =>
    match streamer.start ctx.env interval.toNat with
    | .error _ => ⟨true, streamer, ctx⟩
    | .ok ⟨_, none, after⟩ => ⟨true, after, ctx⟩
    | .ok ⟨_, some number, after⟩ =>
      ⟨true, after, ctx.trace (.streamStarted ctx.handle number)⟩
  | .stop => ⟨true, streamer.cancel, ctx⟩
  | other =>
    ⟨streamer.handlesCommands, streamer, streamer.noteTo ctx (.atHost ctx.handle other)⟩

/-- A command on the client side. -/
def serveClient (command : StreamCommand) (ctx : Context) (streamer : Streamer) :
    Reply Streamer :=
  match command with
  | .state timestamp state =>
    ⟨true, { streamer with received := some ⟨timestamp, state⟩ },
      streamer.noteTo ctx (.sample timestamp state)⟩
  | other =>
    ⟨streamer.handlesCommands, streamer, streamer.noteTo ctx (.atClient ctx.handle other)⟩

/-- Follow the address of the driver. -/
def follow (ctx : Context) (streamer : Streamer) : Streamer :=
  { streamer with address := some ctx.status.address }

/-- A data packet. One that is no stream command is left alone. -/
def onData (packet : Packet) (ctx : Context) (streamer : Streamer) : Reply Streamer :=
  match StreamCommand.decode packet.data with
  | .error _ => ⟨false, streamer, ctx⟩
  | .ok command =>
    if ctx.status.isHost then (streamer.follow ctx).serveHost command ctx
    else (streamer.follow ctx).serveClient command ctx

/-- The driver's device is gone. -/
def disconnect (streamer : Streamer) : Streamer := { streamer with address := none }.cancel

end Streamer

end DeviceBus
