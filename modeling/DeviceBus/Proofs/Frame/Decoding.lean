import DeviceBus.Proofs.Frame.Cutting

/-!
# The frame in front of a buffer

A buffer is decoded by its size byte: the frame in front is as long as that says, and what follows
it is padding. Three things can be wrong with a buffer, and the first of them is reported: it has no
whole header, it has fewer bytes than the size byte says, or the size byte says more than a frame
may have.

## Main results

* `decode_eq_ok_iff`: a packet is decoded if it fits and its frame stands in front.
* `decoding`: which buffers are decoded, and what is wrong with the others.
* `decodes_and_encodes`: decoding and encoding are inverse to each other.
-/

namespace DeviceBus

namespace Packet

/-- What the size byte of a buffer says; 0 in a buffer that ends before it. -/
def claimedSize (buffer : Bytes) : Nat := (buffer.getD 3 0).toNat

theorem claimedSize_cons (low high address size : UInt8) (rest : Bytes) :
    claimedSize (low :: high :: address :: size :: rest) = size.toNat := rfl

theorem length_sub_headerLength (low high address size : UInt8) (rest : Bytes) :
    (low :: high :: address :: size :: rest).length - headerLength = rest.length := rfl

theorem exists_header {buffer : Bytes} (h : headerLength ≤ buffer.length) :
    ∃ low high address size rest, buffer = low :: high :: address :: size :: rest := by
  match buffer, h with
  | low :: high :: address :: size :: rest, _ => exact ⟨low, high, address, size, rest, rfl⟩

theorem length_toBytes (packet : Packet) :
    packet.toBytes.length = headerLength + packet.data.length := by
  simp only [toBytes, Bytes.ofWord16, List.length_append, List.length_cons, List.length_nil,
    headerLength]

theorem claimedSize_toBytes_append {packet : Packet} (h : packet.Fits) (rest : Bytes) :
    claimedSize (packet.toBytes ++ rest) = packet.data.length := by
  have hlt : packet.data.length < 256 := Nat.lt_of_le_of_lt h (by decide)
  rw [toBytes, Bytes.ofWord16]
  simp only [List.cons_append, List.nil_append, claimedSize_cons, Packet.size, UInt8.toNat_ofNat']
  exact Nat.mod_eq_of_lt hlt

/-! ## Decoding -/

/-- A buffer without a whole header. -/
theorem decode_of_length_lt {buffer : Bytes} (h : buffer.length < headerLength) :
    decode buffer = .error (.truncated buffer.length) := by
  unfold decode
  split
  · simp only [List.length_cons, headerLength] at h
    omega
  · rfl

/-- A packet is decoded exactly if it fits and its frame stands in front, whatever follows. -/
theorem decode_eq_ok_iff {buffer : Bytes} {packet : Packet} :
    decode buffer = .ok packet ↔ packet.Fits ∧ packet.toBytes <+: buffer := by
  constructor
  · intro h
    unfold decode at h
    split at h
    next low high address size rest =>
      split at h
      · cases h
      · split at h
        · cases h
        next hwhole hlimit =>
          cases h
          have hsize : size.toNat ≤ rest.length := Nat.not_lt.1 hwhole
          refine ⟨?_, ?_⟩
          · exact Nat.le_trans (List.length_take_le ..) (Nat.not_lt.1 hlimit)
          · rw [toBytes_read hsize]
            simpa using List.take_prefix size.toNat rest
    · cases h
  · rintro ⟨hfits, rest, rfl⟩
    exact decode_toBytes_append packet rest hfits

/-- What becomes of a buffer that is decoded. -/
structure Decoding (buffer : Bytes) : Prop where
  /-- A buffer is decoded if it has a header and the bytes that its size byte asks for, which are no
  more than a frame may have. -/
  accepted : (∃ packet, decode buffer = .ok packet) ↔
    headerLength ≤ buffer.length ∧ claimedSize buffer ≤ payloadLimit ∧
      claimedSize buffer ≤ buffer.length - headerLength
  /-- The packet is written as it was read, checksum included. -/
  rewritten : ∀ packet, decode buffer = .ok packet →
    packet.toBytes = buffer.take (headerLength + claimedSize buffer)
  /-- The header is not whole. -/
  truncated : buffer.length < headerLength → decode buffer = .error (.truncated buffer.length)
  /-- Else the size byte asks for more than there is. -/
  mismatched : headerLength ≤ buffer.length → buffer.length - headerLength < claimedSize buffer →
    decode buffer = .error (.sizeMismatch (claimedSize buffer) (buffer.length - headerLength))
  /-- Else it asks for more than a frame may have. -/
  oversized : headerLength ≤ buffer.length → claimedSize buffer ≤ buffer.length - headerLength →
    payloadLimit < claimedSize buffer →
    decode buffer = .error (.payloadTooLarge (claimedSize buffer) payloadLimit)

/-- Every buffer is decoded by its size byte. -/
theorem decoding (buffer : Bytes) : Decoding buffer := by
  constructor
  case accepted =>
    constructor
    · rintro ⟨packet, h⟩
      obtain ⟨hfits, rest, rfl⟩ := decode_eq_ok_iff.1 h
      rw [claimedSize_toBytes_append hfits, List.length_append, length_toBytes]
      exact ⟨by omega, hfits, by omega⟩
    · rintro ⟨hheader, hlimit, hwhole⟩
      obtain ⟨low, high, address, size, rest, rfl⟩ := exists_header hheader
      rw [claimedSize_cons] at hlimit hwhole
      rw [length_sub_headerLength] at hwhole
      simp only [decode, if_neg (Nat.not_lt.2 hwhole), if_neg (Nat.not_lt.2 hlimit)]
      exact ⟨_, rfl⟩
  case rewritten =>
    intro packet h
    obtain ⟨hfits, rest, rfl⟩ := decode_eq_ok_iff.1 h
    rw [claimedSize_toBytes_append hfits, ← length_toBytes, List.take_left]
  case truncated => exact decode_of_length_lt
  case mismatched =>
    intro hheader hmore
    obtain ⟨low, high, address, size, rest, rfl⟩ := exists_header hheader
    rw [claimedSize_cons, length_sub_headerLength] at hmore ⊢
    simp only [decode, if_pos hmore]
  case oversized =>
    intro hheader hwhole hlarge
    obtain ⟨low, high, address, size, rest, rfl⟩ := exists_header hheader
    rw [claimedSize_cons] at hwhole hlarge ⊢
    rw [length_sub_headerLength] at hwhole
    simp only [decode, if_neg (Nat.not_lt.2 hwhole), if_pos hlarge]

/-! ## Encoding -/

/-- Encoding appends the frame of what fits. -/
theorem encodeOnto_eq (address : UInt8) (data buffer : Bytes) :
    encodeOnto address data buffer =
      (min payloadLimit data.length,
        buffer ++ (⟨0, address, data.take payloadLimit⟩ : Packet).toBytes) := by
  simp only [encodeOnto, List.length_take]

/-- **Decoding and encoding are inverse.** A buffer is decoded by its size byte into a packet that is
written as it was read, a packet that fits is read as it was written, whatever follows it, and data
is appended to a buffer as one frame that reads back as far as it fits. -/
theorem decodes_and_encodes :
    (∀ buffer, Decoding buffer) ∧
    (∀ (packet : Packet) (rest : Bytes), packet.data.length ≤ payloadLimit →
      decode (packet.toBytes ++ rest) = .ok packet) ∧
    ∀ (address : UInt8) (data buffer : Bytes), ∃ frame,
      encodeOnto address data buffer = (min payloadLimit data.length, buffer ++ frame) ∧
      frame.length = headerLength + min payloadLimit data.length ∧
      decode frame = .ok ⟨0, address, data.take (min payloadLimit data.length)⟩ := by
  refine ⟨decoding, fun packet rest h => decode_toBytes_append packet rest h,
    fun address data buffer => ?_⟩
  refine ⟨_, encodeOnto_eq address data buffer, ?_, ?_⟩
  · rw [length_toBytes, List.length_take]
  · have htake : data.take (min payloadLimit data.length) = data.take payloadLimit :=
      List.take_eq_take_min.symm
    have hfits : (⟨0, address, data.take payloadLimit⟩ : Packet).Fits := List.length_take_le ..
    rw [htake]
    exact decode_eq_ok_iff.2 ⟨hfits, List.prefix_rfl⟩

/-- A frame with its checksum, in a padded buffer. -/
theorem decodes_paddedFrame :
    (⟨0x1234, 9, [0xFF]⟩ : Packet).data.length ≤ payloadLimit ∧
      decode [0x34, 0x12, 9, 1, 0xFF, 0, 0] = .ok ⟨0x1234, 9, [0xFF]⟩ :=
  ⟨by decide, decodes_and_encodes.2.1 ⟨0x1234, 9, [0xFF]⟩ [0, 0] (by decide)⟩

end Packet

end DeviceBus
