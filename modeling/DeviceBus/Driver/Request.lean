import DeviceBus.Driver.Basic

/-!
# What an application asks of its driver

An application keeps a hold on the drivers it made: it reads their state and asks them to send,
beside the callbacks of the node. A driver that has no part in a request leaves it unanswered.
-/

namespace DeviceBus

/-- A request of an application. -/
inductive Request where
  /-- Where the pairing stands. -/
  | pairing
  /-- Set whether data packets are handled. -/
  | setHandled (value : Bool)
  /-- Start streaming. -/
  | beginStream (interval : Nat)
  /-- Stop streaming. -/
  | endStream
  /-- Ask the host to start streaming. -/
  | askStart (interval : Nat)
  /-- Ask the host to stop streaming. -/
  | askStop
  /-- Replace the states to stream. -/
  | setStates (states : List (Option Bytes))
  /-- Where the stream stands. -/
  | stream
  /-- Take the lines that a console received. -/
  | takeLines
  /-- Stop listening to a console. -/
  | closeLines
  /-- Send a log line. -/
  | log (priority : LogPriority) (text : List Char)
  /-- Whether a logger host was found. -/
  | logConnected
  deriving DecidableEq, Repr

/-- Where a stream stands. -/
structure StreamReport where
  state : StreamPhase
  isConnected : Bool
  polls : Nat
  last : Option Sample
  deriving DecidableEq, Repr

/-- The answer to a request. -/
inductive Answer where
  | done
  | failed (error : BusError)
  | flag (value : Bool)
  | number (value : Nat)
  | pairing (state : Standing)
  | stream (report : StreamReport)
  | lines (threshold : LogPriority) (lines : List LogLine)
  deriving DecidableEq, Repr

/-- The outcome of a request: the answer, what was done to give it, and the driver afterwards. -/
structure Served (δ : Type) where
  answer : Option Answer
  actions : List Action
  driver : δ

namespace Streamer

/-- Where the stream stands. -/
def report (streamer : Streamer) : StreamReport :=
  ⟨streamer.state, streamer.address.isSome, streamer.polls, streamer.received⟩

/-- The outcome of sending a command. -/
def sendResult (streamer : Streamer) (result : Except BusError Bytes) : Served Streamer :=
  match result with
  | .ok frame => ⟨some .done, [.sent frame], streamer⟩
  | .error e => ⟨some (.failed e), [], streamer⟩

/-- Answer a request. -/
def serve (env : Env) (handle : Handle) (request : Request) (streamer : Streamer) :
    Served Streamer :=
  match request with
  | .beginStream interval =>
    match streamer.start env interval with
    | .error e => ⟨some (.failed e), [], streamer⟩
    | .ok started =>
      let actions := match started.spawned with
        | some number => [.streamStarted handle number]
        | none => []
      ⟨some (.number started.interval), actions, started.streamer⟩
  | .endStream => ⟨some .done, [], streamer.cancel⟩
  | .askStart interval => streamer.sendResult (streamer.askStart env interval)
  | .askStop => streamer.sendResult (streamer.askStop env)
  | .setStates states => ⟨some .done, [], { streamer with states }⟩
  | .stream => ⟨some (.stream streamer.report), [], streamer⟩
  | _ => ⟨none, [], streamer⟩

end Streamer

/-- Answer a request about what is behind the pairing gate. -/
def Gated.serve (env : Env) (handle : Handle) (request : Request)
    (gated : Gated) : Served Gated :=
  match gated with
  | .idle => ⟨none, [], gated⟩
  | .application app =>
    match request with
    | .setHandled value =>
      ⟨some (.flag app.handlesData), [], .application { app with handlesData := value }⟩
    | _ => ⟨none, [], gated⟩
  | .streamer s =>
    let served := s.serve env handle request
    ⟨served.answer, served.actions, .streamer served.driver⟩

/-- Answer a request. -/
def Driver.serve (env : Env) (handle : Handle) (request : Request) (driver : Driver) :
    Served Driver :=
  match driver, request with
  | .pairable p, .pairing => ⟨some (.pairing p.state), [], driver⟩
  | .pairable p, _ =>
    let served := p.gated.serve env handle request
    ⟨served.answer, served.actions, .pairable { p with gated := served.driver }⟩
  | .console c, .takeLines =>
    let (lines, after) := c.takeLines
    ⟨some (.lines c.threshold lines), [], .console after⟩
  | .console c, .closeLines => ⟨some .done, [], .console c.close⟩
  | .logger client, .log priority text =>
    let (result, frames) := client.log env priority text
    let answer := match result with
      | .ok count => .number count
      | .error e => .failed e
    ⟨some answer, frames.map .sent, driver⟩
  | .logger client, .logConnected => ⟨some (.flag client.host.isSome), [], driver⟩
  | _, _ => ⟨none, [], driver⟩

/-! ## The streaming half of a driver -/

namespace Driver

/-- The streamer of a driver that has one. -/
def streamer? : Driver → Option Streamer
  | pairable ⟨_, .streamer s⟩ => some s
  | _ => none

/-- Change the streamer of a driver that has one. -/
def modifyStreamer (change : Streamer → Streamer) : Driver → Driver
  | pairable ⟨state, .streamer s⟩ => pairable ⟨state, .streamer (change s)⟩
  | driver => driver

end Driver

end DeviceBus
