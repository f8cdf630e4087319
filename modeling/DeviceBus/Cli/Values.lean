import DeviceBus.Cli.Failure
import DeviceBus.Text.Blank
import DeviceBus.Text.Decimal
import DeviceBus.Text.Hex
import DeviceBus.Text.Utf8

/-!
# Values on the command line

Hexadecimal bytes, durations, and the three ways of giving a payload.
-/

namespace DeviceBus

/-- The text without a `0x` at its start. -/
def dropHexMark : List Char → List Char
  | '0' :: 'x' :: rest => rest
  | '0' :: 'X' :: rest => rest
  | text => text

/-- Bytes in hexadecimal. White space is ignored, and so is a `0x` at the start. -/
def readHex (text : String) (codec : HexCodec := Hex.codec) : Except CliFailure Bytes :=
  let digits := (dropHexMark (Text.trim text.toList)).filter fun c => !Text.isBlank c
  match codec.decode (Text.utf8 digits) with
  | .ok bytes => .ok bytes
  | .error e => .error ⟨.usage, "invalid hex: " ++ e.message⟩

/-- The number in front of a unit, and the milliseconds in the unit. -/
def splitUnit (text : List Char) : List Char × Nat :=
  match text.reverse with
  | 's' :: 'm' :: number => (number.reverse, 1)
  | 's' :: number => (number.reverse, 1000)
  | _ => (text, 1000)

/-- A duration in milliseconds: a whole number of seconds, or of the unit behind it. -/
def readDuration (text : String) : Except CliFailure Nat :=
  let trimmed := Text.trim text.toList
  if trimmed.isEmpty then .error ⟨.usage, "duration must not be empty"⟩
  else
    let (number, unit) := splitUnit trimmed
    match Text.readNat? UInt64.size (String.ofList number) with
    | none => .error ⟨.usage, "invalid duration value: " ++ String.ofList trimmed⟩
    | some 0 => .error ⟨.usage, "duration must be greater than zero"⟩
    | some value => .ok (value * unit)

/-- Where a payload comes from. -/
structure PayloadSource where
  hex : Option String := none
  data : Option String := none
  file : Option String := none
  deriving DecidableEq, Repr

/-- The payload; files are read with `read`. Without a source it is empty. -/
def PayloadSource.load (read : String → Except IoError Bytes) (source : PayloadSource)
    (codec : HexCodec := Hex.codec) : Except CliFailure Bytes :=
  match source.hex, source.data, source.file with
  | some text, _, _ => readHex text codec
  | none, some text, _ => .ok (Text.utf8 text.toList)
  | none, none, some path =>
    match read path with
    | .ok bytes => .ok bytes
    | .error e => .error (.ofIo ("failed reading " ++ path) e)
  | none, none, none => .ok []

end DeviceBus
