import DeviceBus.Cli.Grammar
import DeviceBus.Cli.Values
import DeviceBus.Device.Role
import DeviceBus.DeviceClass

/-!
# Commands

The commands and what they are given. The options for output and logging belong to every command
and may stand before or behind its name; behind it they count more.
-/

namespace DeviceBus.Cli

/-- How results are printed. -/
inductive PrintStyle where
  | json
  | table
  | pretty
  | raw
  deriving DecidableEq, Repr

/-- The output format of a name. -/
def PrintStyle.ofName? (name : String) : Option PrintStyle :=
  [("json", PrintStyle.json), ("table", .table), ("pretty", .pretty), ("raw", .raw)].lookup name

/-- A command and its arguments. -/
inductive Command where
  /-- Take a frame apart. -/
  | decode (frame : String)
  /-- Print a frame. -/
  | encode (address : UInt8) (payload : PayloadSource)
  /-- Send a frame through a bridge socket. -/
  | send (path : String) (address : UInt8) (payload : PayloadSource)
  /-- Print the frames that arrive through a bridge socket, those to some addresses only. -/
  | listen (path : String) (addresses : Option (List UInt8)) (count : Option Nat)
  /-- Run nodes on a bus and print where they settle. -/
  | simulate (nodes : Nat) (duration : String) (deviceClass : DeviceClass)
      (preferred : Option UInt8)
  /-- Print the version. -/
  | version (isExtended : Bool)
  deriving DecidableEq, Repr

/-- The file that a command reads its payload from. -/
def Command.file? : Command → Option String
  | .encode _ payload => payload.file
  | .send _ _ payload => payload.file
  | _ => none

/-- A command line that was understood. -/
structure Invocation where
  format : Option PrintStyle
  command : Command
  deriving DecidableEq, Repr

/-! ## Options -/

/-- Whether a text is one of some words. -/
def isOneOf (words : List String) (text : String) : Bool := words.contains text

/-- A number that fits a byte. -/
def readByte? (text : String) : Option UInt8 := (Text.readBetween? 0 255 text).map UInt8.ofNat

/-- Numbers that fit a byte, with commas between them. -/
def readBytes? (text : String) : Option (List UInt8) := (text.splitOn ",").mapM readByte?

/-- The options of every command. -/
def sharedOptions : List OptionSpec :=
  [{ name := "format", accepts := fun text => (PrintStyle.ofName? text).isSome },
   { name := "log-format", accepts := isOneOf ["text", "json"] },
   { name := "log-level", accepts := isOneOf ["error", "warn", "info", "debug", "trace"] }]

/-- The option for the address of a frame. -/
def addressOption : OptionSpec :=
  { name := "address", short := some 'a', accepts := fun text => (readByte? text).isSome }

/-- The options for a payload. -/
def payloadOptions : List OptionSpec :=
  [{ name := "hex" }, { name := "data" }, { name := "file", accepts := (!·.isEmpty) }]

/-- What stands before the name of a command. -/
def outerGrammar : Grammar :=
  { options :=
      sharedOptions ++ [{ name := versionOption, short := some 'V', arity := .switch }]
    positionals := 1
    isOuter := true }

/-- What stands behind the name of a command. -/
def innerGrammar? (name : String) : Option Grammar :=
  let own : Option (List OptionSpec × Nat) :=
    match name with
    | "decode" => some ([], 1)
    | "encode" => some (addressOption :: payloadOptions, 0)
    | "send" => some (addressOption :: payloadOptions, 1)
    | "listen" =>
      some
        ([{ name := "address", arity := .many, accepts := fun text => (readBytes? text).isSome },
          { name := "count", accepts := fun text => (Text.readNat? UInt64.size text).isSome }], 1)
    | "simulate" =>
      some
        ([{ name := "nodes", accepts := fun text => (Text.readBetween? 1 16 text).isSome },
          { name := "duration" },
          { name := "class",
            accepts := fun text => (Text.readBetween? 0 (UInt32.size - 1) text).isSome },
          { name := "collide", accepts := fun text => (readByte? text).isSome }], 0)
    | "version" => some ([{ name := "extended", arity := .switch }], 0)
    | _ => none
  own.map fun (options, positionals) => { options := sharedOptions ++ options, positionals }

/-! ## From matches to a command -/

/-- The payload that was given; only one source is allowed. -/
def payloadOf (found : Matches) : Option PayloadSource :=
  let source : PayloadSource := ⟨found.value? "hex", found.value? "data", found.value? "file"⟩
  let given := [source.hex, source.data, source.file].countP (·.isSome)
  if given ≤ 1 then some source else none

/-- The address that was given, 0 if none was. -/
def addressOf (found : Matches) : UInt8 := ((found.value? "address").bind readByte?).getD 0

/-- The command that matches make up. -/
def commandOf? (name : String) (found : Matches) : Option Command :=
  match name, found.positionals with
  | "decode", [frame] => some (.decode frame)
  | "encode", [] => (payloadOf found).map (.encode (addressOf found))
  | "send", [path] =>
    if path.isEmpty then none else (payloadOf found).map (.send path (addressOf found))
  | "listen", [path] =>
    let addresses :=
      if found.has "address" then
        some ((found.values "address").flatMap fun text => (readBytes? text).getD [])
      else none
    if path.isEmpty then none
    else some (.listen path addresses ((found.value? "count").bind (Text.readNat? UInt64.size)))
  | "simulate", [] =>
    let number := fun name least most default =>
      ((found.value? name).bind (Text.readBetween? least most)).getD default
    some
      (.simulate (number "nodes" 1 16 2) ((found.value? "duration").getD "2s")
        (UInt32.ofNat (number "class" 0 (UInt32.size - 1) DeviceClass.pin.toNat))
        ((found.value? "collide").bind readByte?))
  | "version", [] => some (.version (found.has "extended"))
  | _, _ => none

/-- Understand a command line. -/
def parse (arguments : List String) : Except Halt Invocation :=
  match scan outerGrammar arguments Matches.empty with
  | .error halt => .error halt
  | .ok outer =>
    match outer.positionals with
    | [name] =>
      match innerGrammar? name with
      | none => .error .misuse
      | some grammar =>
        match scan grammar outer.rest Matches.empty with
        | .error halt => .error halt
        | .ok inner =>
          match commandOf? name inner with
          | none => .error .misuse
          | some command =>
            let format := (inner.value? "format").or (outer.value? "format")
            .ok ⟨format.bind PrintStyle.ofName?, command⟩
    | _ => .error .misuse

end DeviceBus.Cli
