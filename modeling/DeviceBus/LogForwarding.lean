import DeviceBus.Driver.Console
import DeviceBus.Text.Quoted

/-!
# Forwarding the process log

What a process logs can be forwarded to a bus console. Events of the protocol itself and the
console's own lines are left out, otherwise every forwarded packet would log about itself. The
first sender that is attached stays.
-/

namespace DeviceBus

/-- How important a logged event is. -/
inductive LogLevel where
  | error
  | warn
  | info
  | debug
  | trace
  deriving DecidableEq, Repr

/-- The priority that an event has on the console. -/
def LogLevel.priority : LogLevel → LogPriority
  | .error => .error
  | .warn => .warning
  | .info => .log
  | .debug | .trace => .debug

/-- A value logged with an event. -/
inductive FieldValue where
  | number (value : Nat)
  | flag (value : Bool)
  /-- Text in quotation marks. -/
  | quoted (value : String)
  /-- Text as it is. -/
  | plain (value : String)
  deriving DecidableEq, Repr

/-- A value as text. -/
def FieldValue.text : FieldValue → String
  | .number value => toString value
  | .flag value => if value then "true" else "false"
  | .quoted value => Text.quoteString value
  | .plain value => value

/-- A logged event. -/
structure LogEvent where
  level : LogLevel
  target : String
  message : String
  fields : List (String × FieldValue)
  deriving DecidableEq, Repr

namespace LogEvent

/-- The target of the console's own lines. -/
def ownTarget : String := "jdbus::console"

/-- The start of the targets that belong to the protocol. -/
def protocolTargets : List Char := "jdbus_".toList

/-- Whether an event is forwarded. -/
def isForwarded (event : LogEvent) : Bool :=
  event.target != ownTarget && !protocolTargets.isPrefixOf event.target.toList

/-- An event as a line: the message and then the fields. -/
def line (event : LogEvent) : String :=
  let fields :=
    String.intercalate " " (event.fields.map fun (name, value) => name ++ "=" ++ value.text)
  if event.message.isEmpty then fields
  else if fields.isEmpty then event.message
  else event.message ++ " " ++ fields

end LogEvent

/-- The forwarding of a process log. -/
structure LogForwarding where
  sender : Option LogClient
  deriving DecidableEq, Repr

namespace LogForwarding

/-- Forwarding without a sender. -/
def empty : LogForwarding := ⟨none⟩

/-- Attach a sender, and whether it is the one that stays. -/
def attach (sender : LogClient) (forwarding : LogForwarding) : Bool × LogForwarding :=
  match forwarding.sender with
  | some _ => (false, forwarding)
  | none => (true, ⟨some sender⟩)

/-- The frames that carry an event to the console. -/
def forward (env : Env) (event : LogEvent) (forwarding : LogForwarding) : List Bytes :=
  match forwarding.sender with
  | none => []
  | some sender =>
    if event.isForwarded then (sender.log env event.level.priority event.line.toList).2 else []

end LogForwarding

end DeviceBus
