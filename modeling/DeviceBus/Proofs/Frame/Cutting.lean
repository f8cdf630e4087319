import DeviceBus.Frame.Packet

/-!
# Cutting bytes into frames

Bytes of a stream are cut into frames from their start, until no whole frame that fits stands in
front. The cut is found by taking one frame after the other, and there is only one; bytes that
arrive later change none of the frames found before.

## Main results

* `next_eq_some_iff`: a packet is taken from a buffer when its frame stands in front and it fits.
* `cuts_drain`, `Cuts.eq_drain`: draining a buffer cuts it, and no other way of cutting does.
* `drain_wire_append`: the frames in front of a buffer come first, whatever follows them.
-/

namespace DeviceBus

namespace Packet

/-- Whether the packet's payload is within the limit of the bus. -/
def Fits (packet : Packet) : Prop := packet.data.length ≤ payloadLimit

instance (packet : Packet) : Decidable packet.Fits := inferInstanceAs (Decidable (_ ≤ _))

/-- The bytes of frames one after the other. -/
def wire (packets : List Packet) : Bytes := packets.flatMap toBytes

@[simp] theorem wire_nil : wire [] = [] := rfl

@[simp] theorem wire_cons (packet : Packet) (packets : List Packet) :
    wire (packet :: packets) = packet.toBytes ++ wire packets := rfl

@[simp] theorem wire_append (packets later : List Packet) :
    wire (packets ++ later) = wire packets ++ wire later := List.flatMap_append

theorem toBytes_ne_nil (packet : Packet) : packet.toBytes ≠ [] := by simp [toBytes, Bytes.ofWord16]

/-- The bytes of a packet that was read are those it was read from. -/
theorem toBytes_read {low high address size : UInt8} {rest : Bytes}
    (h : size.toNat ≤ rest.length) :
    (⟨Bytes.word16 low high, address, rest.take size.toNat⟩ : Packet).toBytes =
      low :: high :: address :: size :: rest.take size.toNat := by
  have hlength : (rest.take size.toNat).length = size.toNat := by simp [h]
  simp [toBytes, Packet.size, Bytes.ofWord16_word16, hlength]

/-! ## Taking one frame -/

theorem next_toBytes_append {packet : Packet} (hfits : packet.Fits) (rest : Bytes) :
    next (packet.toBytes ++ rest) = .ok (some (packet, rest)) := by
  obtain ⟨crc, address, data⟩ := packet
  have h32 : data.length ≤ 32 := hfits
  have hsize : (UInt8.ofNat data.length).toNat = data.length := by
    simp only [UInt8.toNat_ofNat']
    omega
  simp only [toBytes, size, Bytes.ofWord16, List.cons_append, List.nil_append, next, hsize,
    List.length_append, payloadLimit]
  rw [if_neg (by omega), if_neg (by omega), Bytes.word16_ofWord16]
  simp

theorem next_eq_some_iff {buffer rest : Bytes} {packet : Packet} :
    next buffer = .ok (some (packet, rest)) ↔ packet.Fits ∧ buffer = packet.toBytes ++ rest := by
  refine ⟨fun h => ?_, fun ⟨hfits, hbuffer⟩ => hbuffer ▸ next_toBytes_append hfits rest⟩
  unfold next at h
  split at h
  next low high address size tail =>
    split at h
    · cases h
    · split at h
      · cases h
      next hlimit hwhole =>
        obtain ⟨rfl, rfl⟩ : _ ∧ _ := by simpa using h
        refine ⟨Nat.le_trans (List.length_take_le ..) (Nat.not_lt.1 hlimit), ?_⟩
        rw [toBytes_read (Nat.not_lt.1 hwhole)]
        simp
  · cases h

/-- A size byte above the limit is in front, behind the checksum and the address. -/
theorem next_eq_error_iff {buffer : Bytes} {e : FrameError} :
    next buffer = .error e ↔ ∃ low high address size rest,
      buffer = low :: high :: address :: size :: rest ∧ payloadLimit < size.toNat ∧
        e = .payloadTooLarge size.toNat payloadLimit := by
  constructor
  · intro h
    unfold next at h
    split at h
    next low high address size tail =>
      split at h
      next hlarge =>
        exact ⟨low, high, address, size, tail, rfl, hlarge, (Except.error.inj h).symm⟩
      · split at h <;> cases h
    · cases h
  · rintro ⟨low, high, address, size, rest, rfl, hlarge, rfl⟩
    simp only [next, if_pos hlarge]

theorem next_append_of_some {buffer rest : Bytes} {packet : Packet}
    (h : next buffer = .ok (some (packet, rest))) (later : Bytes) :
    next (buffer ++ later) = .ok (some (packet, rest ++ later)) := by
  obtain ⟨hfits, rfl⟩ := next_eq_some_iff.mp h
  rw [List.append_assoc]
  exact next_toBytes_append hfits (rest ++ later)

theorem next_append_of_error {buffer : Bytes} {e : FrameError} (h : next buffer = .error e)
    (later : Bytes) : next (buffer ++ later) = .error e := by
  obtain ⟨low, high, address, size, rest, rfl, hlarge, rfl⟩ := next_eq_error_iff.mp h
  exact next_eq_error_iff.mpr ⟨low, high, address, size, rest ++ later, rfl, hlarge, rfl⟩

/-! ## Taking all frames -/

/-- A buffer cut into frames and bytes that do not start with a frame. -/
structure Cuts (buffer : Bytes) (packets : List Packet) (rest : Bytes) : Prop where
  bytes : buffer = wire packets ++ rest
  fits : ∀ packet ∈ packets, packet.Fits
  isOver : ∀ packet : Packet, packet.Fits → ¬packet.toBytes <+: rest

theorem drain_of_next {buffer rest : Bytes} {packet : Packet}
    (h : next buffer = .ok (some (packet, rest))) :
    drain buffer = { drain rest with packets := packet :: (drain rest).packets } := by
  rw [drain]
  split <;> simp_all

theorem drain_of_next_none {buffer : Bytes} (h : next buffer = .ok none) :
    drain buffer = ⟨[], none, buffer⟩ := by
  rw [drain]
  split <;> simp_all

theorem drain_of_next_error {buffer : Bytes} {e : FrameError} (h : next buffer = .error e) :
    drain buffer = ⟨[], some e, buffer⟩ := by
  rw [drain]
  split <;> simp_all

/-- Frames in front of a buffer are taken first, whatever follows them. -/
theorem drain_wire_append {packets : List Packet} (hfits : ∀ packet ∈ packets, packet.Fits)
    (rest : Bytes) :
    drain (wire packets ++ rest) =
      { drain rest with packets := packets ++ (drain rest).packets } := by
  induction packets with
  | nil => rfl
  | cons packet packets ih =>
    have hnext := next_toBytes_append (hfits packet (by simp)) (wire packets ++ rest)
    rw [wire_cons, List.append_assoc, drain_of_next hnext,
      ih fun later hlater => hfits later (by simp [hlater])]
    rfl

/-- No frame stands in front of a buffer that nothing can be taken from. -/
theorem packets_drain_eq_nil_iff {buffer : Bytes} :
    (drain buffer).packets = [] ↔ ∀ packet : Packet, packet.Fits → ¬packet.toBytes <+: buffer := by
  constructor
  · rintro hnil packet hfits ⟨rest, rfl⟩
    rw [drain_of_next (next_toBytes_append hfits rest)] at hnil
    cases hnil
  · intro hover
    cases hnext : next buffer with
    | error e => rw [drain_of_next_error hnext]
    | ok taken =>
      cases taken with
      | none => rw [drain_of_next_none hnext]
      | some taken =>
        obtain ⟨hfits, hbuffer⟩ := next_eq_some_iff.mp hnext
        exact absurd ⟨taken.2, hbuffer.symm⟩ (hover taken.1 hfits)

theorem cuts_drain (buffer : Bytes) : Cuts buffer (drain buffer).packets (drain buffer).rest := by
  fun_induction drain buffer with
  | case1 buffer packet rest hnext later ih =>
    obtain ⟨hfits, hbuffer⟩ := next_eq_some_iff.mp hnext
    refine ⟨?_, ?_, ih.isOver⟩
    · rw [hbuffer, wire_cons, List.append_assoc, ← ih.bytes]
    · rintro taken (_ | ⟨_, hlater⟩)
      · exact hfits
      · exact ih.fits taken hlater
  | case2 buffer hnext =>
    exact ⟨rfl, by simp, packets_drain_eq_nil_iff.mp (by rw [drain_of_next_none hnext])⟩
  | case3 buffer e hnext =>
    exact ⟨rfl, by simp, packets_drain_eq_nil_iff.mp (by rw [drain_of_next_error hnext])⟩

/-- Bytes are cut in one way only. -/
theorem Cuts.eq_drain {buffer rest : Bytes} {packets : List Packet}
    (h : Cuts buffer packets rest) :
    (drain buffer).packets = packets ∧ (drain buffer).rest = rest := by
  have hnil := packets_drain_eq_nil_iff.mpr h.isOver
  have hrest := (cuts_drain rest).bytes
  rw [hnil, wire_nil, List.nil_append] at hrest
  rw [h.bytes, drain_wire_append h.fits]
  exact ⟨by rw [hnil, List.append_nil], hrest.symm⟩

end Packet

end DeviceBus
