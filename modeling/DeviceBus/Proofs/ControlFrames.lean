import DeviceBus.Node.Receive
import DeviceBus.Proofs.Frame.Decoding

/-!
# Control packets on the wire

The bus carries frames, the protocol speaks in control packets. `ControlPacket.ofFrame?` is what a
node hears in a frame. A control packet that could be sent is heard as it was sent, and one that
was heard can be sent again.

## Main results

* `ofFrame?_frame`: what is sent is what is heard.
* `Env.controlFrame_eq_ok_iff`: a packet is sent if sends are taken and its payload fits.
* `receiveFrame_of_control`: a control packet is received as what is heard in its frame.
-/

namespace DeviceBus

/-- An identity reads back from its bytes, whatever follows them. -/
theorem Identity.decode?_encode (identity : Identity) :
    Identity.decode? identity.encode = some identity := by
  obtain ⟨address, serial, deviceClass⟩ := identity
  simp only [encode, Bytes.ofWord32, List.cons_append, List.nil_append, decode?,
    Bytes.word32_ofWord32]

theorem Identity.length_encode (identity : Identity) : identity.encode.length = 9 := rfl

/-- A type byte that is written as it was read. -/
theorem ControlType.toByte_ofByte (byte : UInt8) : (ofByte byte).toByte = byte := by
  unfold ofByte
  split
  · rename_i h
    exact h.symm
  · split
    · rename_i h
      exact h.symm
    · rfl

namespace ControlPacket

/-- A type that reads back: known types have their bytes, and no unknown one takes them. -/
def IsCanonical (cp : ControlPacket) : Prop := ControlType.ofByte cp.type.toByte = cp.type

theorem isCanonical_of_hello {cp : ControlPacket} (h : cp.type = .hello) : cp.IsCanonical := by
  unfold IsCanonical
  rw [h]
  rfl

theorem decode_toBytes {cp : ControlPacket} (h : cp.IsCanonical) : decode cp.toBytes = .ok cp := by
  obtain ⟨type, address, flags, deviceClass, serial, payload⟩ := cp
  have htype : ControlType.ofByte type.toByte = type := h
  simp only [toBytes, Bytes.ofWord16, Bytes.ofWord32, List.cons_append, List.nil_append, decode,
    htype, Bytes.word16_ofWord16, Bytes.word32_ofWord32]

theorem length_toBytes (cp : ControlPacket) :
    cp.toBytes.length = controlHeaderLength + cp.payload.length := by
  simp only [toBytes, Bytes.ofWord16, Bytes.ofWord32, List.length_append, List.length_cons,
    List.length_nil, controlHeaderLength]

/-- A control packet is written as it was read, whatever its type. -/
theorem toBytes_of_decode {data : Bytes} {cp : ControlPacket} (h : decode data = .ok cp) :
    cp.toBytes = data := by
  unfold decode at h
  split at h
  · cases h
    simp only [toBytes, ControlType.toByte_ofByte, Bytes.ofWord16_word16, Bytes.ofWord32_word32]
    rfl
  · cases h

theorem isCanonical_of_decode {data : Bytes} {cp : ControlPacket} (h : decode data = .ok cp) :
    cp.IsCanonical := by
  unfold decode at h
  split at h
  · cases h
    unfold IsCanonical
    rw [ControlType.toByte_ofByte]
  · cases h

/-- The driver bytes of a frame payload are within the limit. -/
theorem payload_le_of_decode {data : Bytes} {cp : ControlPacket} (h : decode data = .ok cp)
    (hfits : data.length ≤ payloadLimit) : cp.payload.length ≤ controlPayloadLimit := by
  have hlength := cp.length_toBytes
  rw [toBytes_of_decode h] at hlength
  simp only [controlPayloadLimit, payloadLimit, controlHeaderLength] at hfits hlength ⊢
  omega

/-- What a node hears in a frame, if the frame carries a control packet. -/
def ofFrame? (frame : Bytes) : Option ControlPacket :=
  match Packet.decode frame with
  | .ok packet =>
    if packet.isControl then
      match decode packet.data with
      | .ok cp => some cp
      | .error _ => none
    else none
  | .error _ => none

theorem ofFrame?_eq_some_iff {frame : Bytes} {cp : ControlPacket} :
    ofFrame? frame = some cp ↔ ∃ packet, Packet.decode frame = .ok packet ∧
      packet.isControl = true ∧ decode packet.data = .ok cp := by
  unfold ofFrame?
  constructor
  · intro h
    split at h
    · rename_i packet hpacket
      split at h
      · rename_i hcontrol
        split at h
        · rename_i hcp
          cases h
          exact ⟨packet, hpacket, hcontrol, hcp⟩
        · cases h
      · cases h
    · cases h
  · rintro ⟨packet, hpacket, hcontrol, hcp⟩
    rw [hpacket]
    dsimp only
    rw [if_pos hcontrol, hcp]

/-- The frame of a control packet. -/
def frame (cp : ControlPacket) : Bytes := (⟨0, controlAddress, cp.toBytes⟩ : Packet).toBytes

/-- The packet of a control packet that fits a frame. -/
theorem toPacket_eq_ok {cp : ControlPacket} (h : cp.payload.length ≤ controlPayloadLimit) :
    cp.toPacket = .ok ⟨0, controlAddress, cp.toBytes⟩ := by
  have hlen := cp.length_toBytes
  have hfit : cp.toBytes.length ≤ payloadLimit := by
    simp only [controlPayloadLimit, payloadLimit, controlHeaderLength] at h hlen ⊢
    omega
  unfold toPacket Packet.ofData
  rw [if_neg (Nat.not_lt.2 h), if_neg (Nat.not_lt.2 hfit)]

theorem toPacket_of_payload_lt {cp : ControlPacket} (h : controlPayloadLimit < cp.payload.length) :
    cp.toPacket = .error (.payloadTooLarge cp.payload.length controlPayloadLimit) := by
  unfold toPacket
  rw [if_pos h]

/-- The frame of a control packet that fits carries the packet and nothing else. -/
theorem decode_frame {cp : ControlPacket} (h : cp.payload.length ≤ controlPayloadLimit) :
    Packet.decode cp.frame = .ok ⟨0, controlAddress, cp.toBytes⟩ := by
  have hlen : cp.toBytes.length ≤ payloadLimit := by
    have := cp.length_toBytes
    simp only [controlPayloadLimit, payloadLimit, controlHeaderLength] at h this ⊢
    omega
  have hdecode := Packet.decode_toBytes_append ⟨0, controlAddress, cp.toBytes⟩ [] hlen
  rwa [List.append_nil] at hdecode

/-- What is sent is what is heard. -/
theorem ofFrame?_frame {cp : ControlPacket} (hcp : cp.IsCanonical)
    (h : cp.payload.length ≤ controlPayloadLimit) : ofFrame? cp.frame = some cp :=
  ofFrame?_eq_some_iff.2 ⟨_, decode_frame h, rfl, decode_toBytes hcp⟩

end ControlPacket

open ControlPacket

/-- A control packet is sent exactly if sends are taken and its payload fits. -/
theorem Env.controlFrame_eq_ok_iff {env : Env} {cp : ControlPacket} {frame : Bytes} :
    env.controlFrame cp = .ok frame ↔
      env.refusal = none ∧ cp.payload.length ≤ controlPayloadLimit ∧ frame = cp.frame := by
  unfold Env.controlFrame
  by_cases hfit : cp.payload.length ≤ controlPayloadLimit
  · rw [toPacket_eq_ok hfit]
    unfold Env.transmit
    cases env.refusal with
    | some e => simp
    | none => simp [hfit, ControlPacket.frame, eq_comm]
  · have herror := toPacket_of_payload_lt (Nat.not_le.1 hfit)
    simp [herror, hfit]

/-- What was heard fits a frame and has a type that reads back. -/
theorem fits_of_ofFrame? {frame : Bytes} {cp : ControlPacket} (h : ofFrame? frame = some cp) :
    cp.payload.length ≤ controlPayloadLimit ∧ cp.IsCanonical := by
  obtain ⟨packet, hpacket, -, hcp⟩ := ofFrame?_eq_some_iff.1 h
  have hfits : packet.Fits := (Packet.decode_eq_ok_iff.1 hpacket).1
  exact ⟨payload_le_of_decode hcp hfits, isCanonical_of_decode hcp⟩

namespace Node

theorem receiveFrame_of_control {env : Env} {frame : Bytes} {cp : ControlPacket} (node : Node)
    (h : ofFrame? frame = some cp) : node.receiveFrame env frame = node.receiveControl env cp := by
  obtain ⟨packet, hpacket, hcontrol, hcp⟩ := ofFrame?_eq_some_iff.1 h
  unfold receiveFrame receivePacket
  rw [hpacket]
  dsimp only
  rw [if_pos hcontrol, hcp]

end Node

end DeviceBus
