import DeviceBus.Bytes
import DeviceBus.Frame.Error

/-!
# Frames

A frame is a header of four bytes (a 16-bit checksum, an address and a size) and a payload of at
most 32 bytes. The checksum belongs to the transport: it is carried, never computed. Frames to
address 0 are control packets.

`Packet.decode` reads one frame from a received buffer and ignores what follows it;
`Packet.next` takes one frame from the front of a growing buffer.

## Main results

- `decode_toBytes_append`: a packet that fits reads back, whatever follows it.
-/

namespace DeviceBus

/-- The bytes of a frame header. -/
def headerLength : Nat := 4

/-- The most payload bytes in a frame. -/
def payloadLimit : Nat := 32

/-- The longest frame. -/
def frameLimit : Nat := headerLength + payloadLimit

/-- The address of control packets. -/
def controlAddress : UInt8 := 0

/-- A frame taken apart. -/
structure Packet where
  crc : UInt16
  address : UInt8
  data : Bytes
  deriving DecidableEq, Repr, Inhabited

namespace Packet

/-- A packet to send, its checksum left to the transport. -/
def ofData (address : UInt8) (data : Bytes) : Except FrameError Packet :=
  if payloadLimit < data.length then .error (.payloadTooLarge data.length payloadLimit)
  else .ok ⟨0, address, data⟩

/-- The size byte. -/
def size (packet : Packet) : UInt8 := UInt8.ofNat packet.data.length

/-- Whether the packet goes to the logic address. -/
def isControl (packet : Packet) : Bool := packet.address == controlAddress

/-- The number of bytes on the wire. -/
def wireSize (packet : Packet) : Nat := headerLength + packet.data.length

/-- The bytes on the wire, checksum as it is. -/
def toBytes (packet : Packet) : Bytes :=
  Bytes.ofWord16 packet.crc ++ [packet.address, packet.size] ++ packet.data

/-- Append the frame of a payload, cut to what fits, to a buffer. The result also tells how many
payload bytes went in. -/
def encodeOnto (address : UInt8) (data : Bytes) (buffer : Bytes) : Nat × Bytes :=
  let kept := data.take payloadLimit
  (kept.length, buffer ++ (Packet.mk 0 address kept).toBytes)

/-- The frame at the front of a received buffer. -/
def decode (buffer : Bytes) : Except FrameError Packet :=
  match buffer with
  | low :: high :: address :: size :: rest =>
    if rest.length < size.toNat then .error (.sizeMismatch size.toNat rest.length)
    else if payloadLimit < size.toNat then .error (.payloadTooLarge size.toNat payloadLimit)
    else .ok ⟨Bytes.word16 low high, address, rest.take size.toNat⟩
  | _ => .error (.truncated buffer.length)

/-- Take one frame from the front of a stream buffer: nothing while it is incomplete, otherwise
the packet and the rest of the buffer. -/
def next (buffer : Bytes) : Except FrameError (Option (Packet × Bytes)) :=
  match buffer with
  | low :: high :: address :: size :: rest =>
    if payloadLimit < size.toNat then .error (.payloadTooLarge size.toNat payloadLimit)
    else if rest.length < size.toNat then .ok none
    else
      .ok (some (⟨Bytes.word16 low high, address, rest.take size.toNat⟩, rest.drop size.toNat))
  | _ => .ok none

/-- Taking a frame shortens the buffer. -/
theorem length_lt_of_next {buffer rest : Bytes} {packet : Packet}
    (h : next buffer = .ok (some (packet, rest))) : rest.length < buffer.length := by
  unfold next at h
  split at h
  · split at h
    · cases h
    · split at h
      · cases h
      · simp only [Except.ok.injEq, Option.some.injEq, Prod.mk.injEq] at h
        rw [← h.2]
        simp only [List.length_drop, List.length_cons]
        omega
  · cases h

/-- What draining a buffer gave: the packets, the error that stopped it if there was one, and the
bytes left. -/
structure Drained where
  packets : List Packet
  error : Option FrameError
  rest : Bytes
  deriving DecidableEq, Repr

/-- Take frames from a buffer until one is incomplete or wrong. -/
def drain (buffer : Bytes) : Drained :=
  match _h : next buffer with
  | .ok (some (packet, rest)) =>
    let later := drain rest
    { later with packets := packet :: later.packets }
  | .ok none => ⟨[], none, buffer⟩
  | .error e => ⟨[], some e, buffer⟩
termination_by buffer.length
decreasing_by exact length_lt_of_next _h

theorem decode_toBytes_append (packet : Packet) (rest : Bytes)
    (h : packet.data.length ≤ payloadLimit) : decode (packet.toBytes ++ rest) = .ok packet := by
  obtain ⟨crc, address, data⟩ := packet
  have h32 : data.length ≤ 32 := h
  have hsize : (UInt8.ofNat data.length).toNat = data.length := by
    simp only [UInt8.toNat_ofNat']
    omega
  simp only [toBytes, size, Bytes.ofWord16, List.cons_append, List.nil_append, decode, hsize,
    List.length_append, payloadLimit]
  rw [if_neg (by omega), if_neg (by omega), Bytes.word16_ofWord16]
  simp

end Packet

end DeviceBus
