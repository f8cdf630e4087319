import DeviceBus.Proofs.Pairing.Moves

/-!
# Control packets inside frames

Three layouts are nested when two drivers pair: an identity in a control packet in a frame. Each of
them is read as it was written, so what one driver says another one hears: a control packet survives
the wire if its payload fits and its type is not a known one by another name. A pairing packet always
does, and one that was cut so short that no identity is left means nothing to a driver.

## Main results

* `survives_iff`: which control packets reach the other side as they were sent.
* `toPacket_of_decode`, `decode_of_length_lt`: a payload is read as a control packet and sent again as
  it was, unless it has no whole header.
* `onControl_of_length_lt`: a pairing packet without an identity leaves a driver alone.
* `carries_control_packets`: all of it together.
-/

namespace DeviceBus

theorem Identity.decode?_of_length_lt {data : Bytes} (h : data.length < encodedLength) :
    decode? data = none := by
  unfold decode?
  split
  · simp only [List.length_cons, encodedLength] at h
    omega
  · rfl

namespace ControlPacket

/-- A type reads back unless it is a known one by another name. -/
theorem isCanonical_iff {cp : ControlPacket} :
    cp.IsCanonical ↔ ∀ byte, cp.type = .unknown byte → byte ≠ 1 ∧ byte ≠ 2 := by
  unfold IsCanonical
  cases htype : cp.type with
  | hello => simp [ControlType.ofByte, ControlType.toByte]
  | pairing => simp [ControlType.ofByte, ControlType.toByte]
  | unknown byte =>
    simp only [ControlType.ofByte, ControlType.toByte, ControlType.unknown.injEq, forall_eq']
    by_cases hhello : byte = 1
    · simp [hhello]
    · by_cases hpairing : byte = 2
      · simp [hpairing]
      · simp [hhello, hpairing]

/-! ## The layout of a control packet -/

theorem decode_of_length_lt {data : Bytes} (h : data.length < controlHeaderLength) :
    decode data = .error (.controlTooShort data.length) := by
  unfold decode
  split
  · simp only [List.length_cons, controlHeaderLength] at h
    omega
  · rfl

theorem exists_decode {data : Bytes} (h : controlHeaderLength ≤ data.length) :
    ∃ cp, decode data = .ok cp := by
  match data, h with
  | _ :: _ :: _ :: _ :: _ :: _ :: _ :: _ :: _ :: _ :: _ :: _ :: _, _ => exact ⟨_, rfl⟩

/-! ## On the wire -/

/-- A control packet that can be sent and is then read as it was. -/
def Survives (cp : ControlPacket) : Prop :=
  ∃ packet, cp.toPacket = .ok packet ∧ Packet.decode packet.toBytes = .ok packet ∧
    decode packet.data = .ok cp

/-- **Which control packets survive**: those that fit and whose type is not a known one by another
name. -/
theorem survives_iff {cp : ControlPacket} :
    cp.Survives ↔ cp.IsCanonical ∧ cp.payload.length ≤ controlPayloadLimit := by
  constructor
  · rintro ⟨packet, hsent, -, hread⟩
    refine ⟨isCanonical_of_decode hread, Nat.not_lt.1 fun hlong => ?_⟩
    rw [toPacket_of_payload_lt hlong] at hsent
    cases hsent
  · rintro ⟨hcanonical, hfits⟩
    exact ⟨_, toPacket_eq_ok hfits, decode_frame hfits, decode_toBytes hcanonical⟩

theorem survives_pairingMessage (target : Identity) (flags : ControlFlags) (sender : Identity) :
    (pairingMessage target flags sender).Survives :=
  survives_iff.2 ⟨isCanonical_pairingMessage target flags sender,
    payload_pairingMessage_le target flags sender⟩

/-- The payload of a frame is sent again as it was read. -/
theorem toPacket_of_decode {data : Bytes} {cp : ControlPacket} (h : decode data = .ok cp)
    (hfits : data.length ≤ payloadLimit) : cp.toPacket = .ok ⟨0, controlAddress, data⟩ := by
  rw [toPacket_eq_ok (payload_le_of_decode h hfits), toBytes_of_decode h]

end ControlPacket

namespace Pairable

/-- A pairing packet without an identity leaves a driver alone. -/
theorem onControl_of_length_lt {cp : ControlPacket} (htype : cp.type = .pairing)
    (h : cp.payload.length < Identity.encodedLength) (ctx : Context) (driver : Pairable) :
    driver.onControl cp ctx = ⟨false, driver, ctx⟩ := by
  have hnone := Identity.decode?_of_length_lt h
  simp only [onControl, htype]
  split
  · simp only [onAnswer, hnone]
  · simp only [onRequest, hnone]

end Pairable

open ControlPacket

/-- **Control packets survive the wire.** -/
theorem carries_control_packets :
    (∀ cp : ControlPacket, cp.Survives ↔
      (∀ byte, cp.type = .unknown byte → byte ≠ 1 ∧ byte ≠ 2) ∧
        cp.payload.length ≤ controlPayloadLimit) ∧
    (∀ cp : ControlPacket, controlPayloadLimit < cp.payload.length →
      cp.toPacket = .error (.payloadTooLarge cp.payload.length controlPayloadLimit)) ∧
    (∀ data : Bytes, controlHeaderLength ≤ data.length → data.length ≤ payloadLimit →
      ∃ cp, decode data = .ok cp ∧ cp.toBytes = data ∧
        cp.toPacket = .ok ⟨0, controlAddress, data⟩) ∧
    (∀ data : Bytes, data.length < controlHeaderLength →
      decode data = .error (.controlTooShort data.length)) ∧
    (∀ (target : Identity) (flags : ControlFlags) (sender : Identity),
      (pairingMessage target flags sender).Survives ∧
        Identity.decode? (pairingMessage target flags sender).payload = some sender) ∧
    ∀ (cp : ControlPacket) (ctx : Context) (driver : Pairable), cp.type = .pairing →
      cp.payload.length < Identity.encodedLength →
        Identity.decode? cp.payload = none ∧
          driver.respond (.control cp) ctx = ⟨false, driver, ctx⟩ := by
  refine ⟨fun cp => ?_, fun cp => toPacket_of_payload_lt, fun data hheader hfits => ?_,
    fun data => decode_of_length_lt, fun target flags sender => ⟨?_, ?_⟩,
    fun cp ctx driver htype hshort => ⟨?_, ?_⟩⟩
  · rw [survives_iff, isCanonical_iff]
  · obtain ⟨cp, hcp⟩ := exists_decode hheader
    exact ⟨cp, hcp, toBytes_of_decode hcp, toPacket_of_decode hcp hfits⟩
  · exact survives_pairingMessage target flags sender
  · exact decode?_payload_pairingMessage target flags sender
  · exact Identity.decode?_of_length_lt hshort
  · exact Pairable.onControl_of_length_lt htype hshort ctx driver

/-- A payload of 21 bytes, the longest and a torn control packet, and a request that lost the last
byte of its sender. -/
theorem carries_tornRequest :
    let wide : ControlPacket := { ControlPacket.hello 5 7 1 with payload := List.replicate 21 0 }
    let full : Bytes := List.replicate 32 2
    let torn : ControlPacket :=
      { pairingMessage ⟨10, 1, 7⟩ askingFlags ⟨20, 2, 7⟩ with payload := [20, 2, 0, 0, 0, 7, 0, 0] }
    wide.toPacket = .error (.payloadTooLarge 21 20) ∧
      (∃ cp, decode full = .ok cp ∧ cp.toBytes = full ∧ cp.toPacket = .ok ⟨0, 0, full⟩) ∧
      decode [1, 5, 0] = .error (.controlTooShort 3) ∧
      ∀ ctx driver, Pairable.respond (.control torn) ctx driver = ⟨false, driver, ctx⟩ := by
  intro wide full torn
  obtain ⟨-, hwide, hfull, hshort, -, htorn⟩ := carries_control_packets
  refine ⟨hwide wide (by decide), hfull full (by decide) (by decide), hshort [1, 5, 0] (by decide),
    fun ctx driver => (htorn torn ctx driver rfl (by decide)).2⟩

end DeviceBus
