import DeviceBus.Cli.Command
import DeviceBus.Cli.Simulate
import DeviceBus.Cli.Surroundings
import DeviceBus.Output.FrameReport

/-!
# Running a command

A command line either does not fit, asks for the version, or names a command that runs to an
outcome: what is printed, what goes to the error stream, and the exit code.
-/

namespace DeviceBus.Cli

/-- What a command leaves behind. -/
structure Outcome where
  code : ExitCode
  output : Bytes
  errors : String
  deriving DecidableEq, Repr

/-- Text followed by a line end. -/
def printed (text : String) : Bytes := Text.utf8 (text.toList ++ ['\n'])

/-- The name and the version of the program. -/
def versionLine : String := "jdbus 0.1.0"

/-- The version and the sizes of frames. -/
def extendedVersion : String :=
  String.intercalate "\n"
    ["name: jdbus", "version: 0.1.0",
     "frame: packet=" ++ toString frameLimit ++ "B header=" ++ toString headerLength ++
       "B control_header=" ++ toString controlHeaderLength ++ "B"]

/-- A packet in print. -/
def printPacket (format : PrintStyle) (packet : Packet) (codec : HexCodec := Hex.codec) : Bytes :=
  match format with
  | .json => printed (JsonValue.ofPacket packet codec).render
  | .table => printed (packet.table codec).render
  | .pretty => printed (packet.line codec)
  | .raw => packet.toBytes

/-- Devices in print. -/
def printListing (format : PrintStyle) (rows : List DeviceListing) : Bytes :=
  match format with
  | .json | .raw => printed (JsonValue.list (rows.map DeviceListing.json)).render
  | .table => printed (DeviceListing.table rows).render
  | .pretty => rows.flatMap fun row => printed row.line

/-- The error of a context as a failure of the command. -/
def failing {ε α : Type} (toFailure : String → ε → CliFailure) (context : String)
    (result : Except ε α) : Except CliFailure α :=
  match result with
  | .ok value => .ok value
  | .error e => .error (toFailure context e)

/-- Run a command; the result is what it prints. -/
def perform (around : Surroundings) (format : PrintStyle) (command : Command)
    (codec : HexCodec := Hex.codec) : Except CliFailure Bytes :=
  match command with
  | .decode frame => do
    let bytes ← readHex frame codec
    let packet ← failing .ofFrame "decode failed" (Packet.decode bytes)
    return printPacket format packet codec
  | .encode address payload => do
    let data ← payload.load around.read codec
    let packet ← failing .ofFrame "encode failed" (Packet.ofData address data)
    return printed (codec.text packet.toBytes)
  | .send path address payload => do
    let data ← payload.load around.read codec
    let script ← failing .ofMedium "connect failed"
      ((around.connect path).mapError fun e => MediumError.connect path e)
    failing .ofFrame "send failed" ((Writer.ofScript script).send address data).1
    return []
  | .listen path _ _ => do
    failing .ofMedium "bind failed" (SocketPath.check path (around.look path))
    failing .ofMedium "bind failed"
      ((around.bind path).mapError fun e => MediumError.bind path e)
    return []
  | .simulate nodes duration deviceClass preferred => do
    let milliseconds ← readDuration duration
    return printListing format (simulate nodes milliseconds deviceClass preferred)
  | .version isExtended =>
    return printed (if isExtended then extendedVersion else versionLine)

/-- Run a command line. -/
def run (around : Surroundings) (arguments : List String) (codec : HexCodec := Hex.codec) :
    Outcome :=
  match parse arguments with
  | .error .misuse => ⟨.badCommandLine, [], ""⟩
  | .error .version => ⟨.success, printed versionLine, ""⟩
  | .ok invocation =>
    let format :=
      invocation.format.getD (if around.isTerminal then PrintStyle.table else .json)
    match perform around format invocation.command codec with
    | .ok output => ⟨.success, output, ""⟩
    | .error failure => ⟨failure.code, [], "error: " ++ failure.message ++ "\n"⟩

end DeviceBus.Cli
