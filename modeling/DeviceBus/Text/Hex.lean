import DeviceBus.Bytes
import DeviceBus.Text.Quoted

/-!
# Hexadecimal text

Bytes are written as two lowercase digits each. Reading takes either letter case, an even number
of digits and nothing else; an odd length is reported before a character that is no digit. Whatever
reads or prints digits can be given another codec than this one.
-/

namespace DeviceBus

/-- Why a text is not hexadecimal. -/
inductive HexError where
  /-- The number of bytes is odd. -/
  | oddLength
  /-- The byte at an index is no digit. -/
  | invalidByte (byte : UInt8) (index : Nat)
  deriving DecidableEq, Repr

/-- The error in words. A byte is shown as the character of that code point. -/
def HexError.message : HexError → String
  | .oddLength => "Odd number of digits"
  | .invalidByte byte index =>
    "Invalid character " ++ Text.quoteChar (Char.ofNat byte.toNat) ++ " at position " ++
      toString index

namespace Hex

/-- The lowercase digit of a number below sixteen. -/
def digit (value : UInt8) : Char := Nat.digitChar value.toNat

/-- The two digits of a byte, high half first. -/
def encodeByte (byte : UInt8) : List Char := [digit (byte / 16), digit (byte % 16)]

/-- Bytes as hexadecimal digits. -/
def encode (bytes : Bytes) : List Char := bytes.flatMap encodeByte

/-- The value of a digit, given as its ASCII byte. -/
def value? (byte : UInt8) : Option UInt8 :=
  if 0x30 ≤ byte && byte ≤ 0x39 then some (byte - 0x30)
  else if 0x41 ≤ byte && byte ≤ 0x46 then some (byte - 0x41 + 10)
  else if 0x61 ≤ byte && byte ≤ 0x66 then some (byte - 0x61 + 10)
  else none

/-- Read digit pairs; `index` is the position of the first byte. -/
def decodePairs (index : Nat) : Bytes → Except HexError Bytes
  | high :: low :: rest =>
    match value? high, value? low with
    | none, _ => .error (.invalidByte high index)
    | some _, none => .error (.invalidByte low (index + 1))
    | some h, some l => (decodePairs (index + 2) rest).map ((h * 16 + l) :: ·)
  | _ => .ok []

/-- The bytes that the ASCII digits spell. -/
def decode (digits : Bytes) : Except HexError Bytes :=
  if digits.length % 2 = 1 then .error .oddLength else decodePairs 0 digits

end Hex

/-- A way of reading and writing hexadecimal digits. -/
structure HexCodec where
  /-- The bytes that ASCII digits spell. -/
  decode : Bytes → Except HexError Bytes
  /-- Bytes as digits. -/
  encode : Bytes → List Char

/-- Bytes as hexadecimal text. -/
def HexCodec.text (codec : HexCodec) (bytes : Bytes) : String := String.ofList (codec.encode bytes)

namespace Hex

/-- Lowercase digits, read in either case. -/
def codec : HexCodec := ⟨decode, encode⟩

/-- Bytes as hexadecimal text. -/
def text (bytes : Bytes) : String := codec.text bytes

end Hex

end DeviceBus
