import DeviceBus.Driver.Context
import DeviceBus.Text.Utf8

/-!
# Log lines over the bus

A log client sends its lines to the logger host it found, in packets of a priority byte and at
most 31 bytes of text. A console is that host: it keeps every piece at or above its threshold for
whoever listens.

## Main results

- `linePieces_flatten`: the pieces of a line join to the line.
-/

namespace DeviceBus

/-- How important a line is. -/
inductive LogPriority where
  | debug
  | log
  | warning
  | error
  deriving DecidableEq, Repr, Inhabited

namespace LogPriority

/-- The byte of a priority. -/
def toByte : LogPriority → UInt8
  | debug => 0
  | log => 1
  | warning => 2
  | error => 3

/-- The priority of a byte. -/
def ofByte? (byte : UInt8) : Option LogPriority :=
  if byte = 0 then some debug
  else if byte = 1 then some log
  else if byte = 2 then some warning
  else if byte = 3 then some error
  else none

/-- The name of a priority. -/
def name : LogPriority → String
  | debug => "debug"
  | log => "log"
  | warning => "warning"
  | error => "error"

/-- Whether a priority is less important than another one. -/
def isBelow (a b : LogPriority) : Bool := a.toByte < b.toByte

end LogPriority

/-- The most text bytes in a packet, after the priority byte. -/
def pieceLength : Nat := payloadLimit - 1

/-- A line in pieces that fit a packet. -/
def linePieces (text : List Char) : List (List Char) := Text.chunks pieceLength text

theorem linePieces_flatten (text : List Char) : (linePieces text).flatten = text :=
  Text.chunks_flatten pieceLength text

/-! ## The sending side -/

/-- The client of a logger host, with the host's address once it was found. -/
structure LogClient where
  host : Option UInt8
  deriving DecidableEq, Repr

namespace LogClient

/-- Send one line. The result is the number of packets, or why the first one that failed did, and
the frames that were sent. -/
def log (env : Env) (priority : LogPriority) (text : List Char) (client : LogClient) :
    Except BusError Nat × List Bytes :=
  match client.host with
  | none => (.error .notConnected, [])
  | some address =>
    let rec sendAll : List (List Char) → Except BusError Nat × List Bytes
      | [] => (.ok 0, [])
      | piece :: rest =>
        match env.dataFrame address (priority.toByte :: Text.utf8 piece) with
        | .error e => (.error e, [])
        | .ok frame =>
          let later := sendAll rest
          (later.1.map (· + 1), frame :: later.2)
    sendAll (linePieces text)

/-- What a node tells the driver. Its address follows the host. -/
def respond (callback : Callback) (ctx : Context) (client : LogClient) :
    Bool × LogClient :=
  match callback with
  | .connected => (true, ⟨some ctx.status.address⟩)
  | .removed => (true, ⟨none⟩)
  | .control _ => (true, ⟨client.host.map fun _ => ctx.status.address⟩)
  | .data _ => (false, client)
  | .partnerLost => (true, client)

end LogClient

/-! ## The receiving side -/

/-- A piece that a console received. -/
structure LogLine where
  address : UInt8
  priority : LogPriority
  text : List Char
  deriving DecidableEq, Repr

/-- A logger host. -/
structure Console where
  threshold : LogPriority
  /-- The lines that wait for the listener, oldest first. -/
  lines : List LogLine
  /-- Whether someone still listens. -/
  isListening : Bool
  deriving DecidableEq, Repr

namespace Console

/-- A console that nothing was sent to. -/
def create (threshold : LogPriority) : Console := ⟨threshold, [], true⟩

/-- Keep a line for the listener. -/
def push (line : LogLine) (console : Console) : Console :=
  if console.isListening then { console with lines := console.lines ++ [line] } else console

/-- A log packet. One with an unknown priority is not handled. -/
def onData (packet : Packet) (console : Console) : Bool × Console :=
  match packet.data with
  | [] => (true, console)
  | byte :: text =>
    match LogPriority.ofByte? byte with
    | none => (false, console)
    | some priority =>
      if priority.isBelow console.threshold then (true, console)
      else (true, console.push ⟨packet.address, priority, Text.decodeLossy text⟩)

/-- Take the lines that wait. -/
def takeLines (console : Console) : List LogLine × Console :=
  (console.lines, { console with lines := [] })

/-- Stop listening: later lines are lost, those that wait can still be taken. -/
def close (console : Console) : Console := { console with isListening := false }

end Console

end DeviceBus
