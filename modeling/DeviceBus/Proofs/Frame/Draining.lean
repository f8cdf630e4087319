import DeviceBus.Proofs.Frame.Decoding

/-!
# Taking frames from a growing buffer

A received buffer is decoded in one go; a stream buffer gives up one frame at a time, as far as the
bytes have come. Both look at the size byte first, but ask in another order: the one whether the
buffer is long enough and then whether the size is allowed, the other whether the size is allowed
and then whether the buffer is long enough. So they differ exactly where a size is too large and the
bytes are missing too: the stream does not wait for bytes that it would refuse.

How the bytes arrive makes no difference to what is taken: a buffer that is drained after every
chunk has given what the whole of them gives when drained once.

## Main results

* `drain_append`: bytes that arrive after a drain are drained with what it left.
* `takes_as_decoded`: what taking a frame has to do with decoding the buffer, and that frames on a
  stream come out the same however they are split.
-/

namespace DeviceBus

namespace Packet

/-! ## Taking a frame out of a buffer -/

/-- Take the frame in front out of a buffer: what was taken, and the buffer after it. Only a packet
leaves the buffer shorter. -/
def takeFrom (buffer : Bytes) : Except FrameError (Option Packet) × Bytes :=
  match next buffer with
  | .ok (some (packet, rest)) => (.ok (some packet), rest)
  | .ok none => (.ok none, buffer)
  | .error e => (.error e, buffer)

theorem takeFrom_eq_some_iff {buffer rest : Bytes} {packet : Packet} :
    takeFrom buffer = (.ok (some packet), rest) ↔ next buffer = .ok (some (packet, rest)) := by
  unfold takeFrom
  split <;>
  next hnext => simp [hnext]

theorem takeFrom_eq_none_iff {buffer rest : Bytes} :
    takeFrom buffer = (.ok none, rest) ↔ next buffer = .ok none ∧ rest = buffer := by
  unfold takeFrom
  split <;>
  next hnext => simp [hnext, eq_comm]

theorem takeFrom_eq_error_iff {buffer rest : Bytes} {e : FrameError} :
    takeFrom buffer = (.error e, rest) ↔ next buffer = .error e ∧ rest = buffer := by
  unfold takeFrom
  split <;>
  next hnext => simp [hnext, eq_comm]

/-- A stream buffer waits for bytes: for a header, or for what an allowed size byte says. -/
theorem next_eq_none_iff {buffer : Bytes} :
    next buffer = .ok none ↔ buffer.length < headerLength ∨
      claimedSize buffer ≤ payloadLimit ∧ buffer.length - headerLength < claimedSize buffer := by
  rcases Nat.lt_or_ge buffer.length headerLength with hshort | hheader
  · have hnone : next buffer = .ok none := by
      unfold next
      split
      · simp only [List.length_cons, headerLength] at hshort
        omega
      · rfl
    exact iff_of_true hnone (.inl hshort)
  · obtain ⟨low, high, address, size, rest, rfl⟩ := exists_header hheader
    rw [claimedSize_cons, length_sub_headerLength, next]
    split
    · simp only [reduceCtorEq, false_iff]
      omega
    · split
      · simp only [true_iff]
        omega
      · simp only [Except.ok.injEq, reduceCtorEq, false_iff]
        omega

/-- A buffer is not decoded for want of bytes, and the size byte, if there is one, is allowed. -/
theorem decode_wants_bytes_iff {buffer : Bytes} :
    ((∃ length, decode buffer = .error (.truncated length)) ∨
      ∃ size available, decode buffer = .error (.sizeMismatch size available) ∧
        size ≤ payloadLimit) ↔
    buffer.length < headerLength ∨
      claimedSize buffer ≤ payloadLimit ∧ buffer.length - headerLength < claimedSize buffer := by
  rcases Nat.lt_or_ge buffer.length headerLength with hshort | hheader
  · exact iff_of_true (.inl ⟨_, decode_of_length_lt hshort⟩) (.inl hshort)
  · obtain ⟨low, high, address, size, rest, rfl⟩ := exists_header hheader
    rw [claimedSize_cons, length_sub_headerLength, decode]
    split
    · simp only [Except.error.injEq, FrameError.sizeMismatch.injEq, reduceCtorEq, exists_false,
        false_or]
      constructor
      · rintro ⟨_, _, ⟨rfl, rfl⟩, hlimit⟩
        exact .inr ⟨hlimit, ‹_›⟩
      · rintro (hshort | ⟨hlimit, _⟩)
        · omega
        · exact ⟨_, _, ⟨rfl, rfl⟩, hlimit⟩
    · split <;>
      · simp only [Except.error.injEq, reduceCtorEq, exists_false, false_and, false_or, false_iff]
        omega

/-! ## Arriving bytes -/

/-- Bytes arrive at what a drain left, and the buffer is drained again. The first error is kept. -/
def Drained.feed (earlier : Drained) (chunk : Bytes) : Drained :=
  let later := drain (earlier.rest ++ chunk)
  ⟨earlier.packets ++ later.packets, earlier.error.or later.error, later.rest⟩

/-- A stream before its first byte. -/
def Drained.nothing : Drained := ⟨[], none, []⟩

theorem drain_nil : drain [] = .nothing := drain_of_next_none rfl

/-- What arrives after a drain is drained with what it left. -/
theorem drain_append (buffer chunk : Bytes) : drain (buffer ++ chunk) = (drain buffer).feed chunk := by
  fun_induction drain buffer with
  | case1 buffer packet rest hnext later ih =>
    rw [drain_of_next (next_append_of_some hnext chunk), ih]
    rfl
  | case2 buffer hnext => simp only [Drained.feed, List.nil_append, Option.none_or]
  | case3 buffer e hnext =>
    simp only [Drained.feed, drain_of_next_error (next_append_of_error hnext chunk),
      List.nil_append, Option.or_some, Option.getD_some]

theorem foldl_feed_drain (buffer : Bytes) (chunks : List Bytes) :
    chunks.foldl Drained.feed (drain buffer) = drain (buffer ++ chunks.flatten) := by
  induction chunks generalizing buffer with
  | nil => simp
  | cons chunk chunks ih =>
    rw [List.foldl_cons, ← drain_append, ih, List.flatten_cons, List.append_assoc]

/-- It makes no difference in which chunks the bytes of a stream arrive. -/
theorem foldl_feed_nothing (chunks : List Bytes) :
    chunks.foldl Drained.feed .nothing = drain chunks.flatten := by
  rw [← drain_nil, foldl_feed_drain, List.nil_append]

theorem drain_wire {packets : List Packet} (hfits : ∀ packet ∈ packets, packet.Fits) :
    drain (wire packets) = ⟨packets, none, []⟩ := by
  have h := drain_wire_append hfits []
  rw [List.append_nil, drain_nil] at h
  simpa [Drained.nothing] using h

/-! ## Taking and decoding -/

/-- What taking the frame in front of a buffer has to do with decoding the buffer. -/
structure TakesAsDecoded (buffer : Bytes) : Prop where
  /-- A packet is taken if it is what the buffer decodes to, and the bytes behind it are left. -/
  taken : ∀ packet rest, takeFrom buffer = (.ok (some packet), rest) ↔
    decode buffer = .ok packet ∧ rest = buffer.drop (headerLength + claimedSize buffer)
  /-- Nothing is taken as long as bytes are missing that may come. -/
  awaited : ∀ rest, takeFrom buffer = (.ok none, rest) ↔
    ((∃ length, decode buffer = .error (.truncated length)) ∨
      ∃ size available, decode buffer = .error (.sizeMismatch size available) ∧
        size ≤ payloadLimit) ∧ rest = buffer
  /-- A size that is not allowed is refused, whether its bytes have come or not. -/
  refused : ∀ e rest, takeFrom buffer = (.error e, rest) ↔
    (headerLength ≤ buffer.length ∧ payloadLimit < claimedSize buffer) ∧
      e = .payloadTooLarge (claimedSize buffer) payloadLimit ∧ rest = buffer

theorem takesAsDecoded (buffer : Bytes) : TakesAsDecoded buffer := by
  constructor
  case taken =>
    intro packet rest
    rw [takeFrom_eq_some_iff, next_eq_some_iff, decode_eq_ok_iff]
    constructor
    · rintro ⟨hfits, rfl⟩
      refine ⟨⟨hfits, List.prefix_append _ _⟩, ?_⟩
      rw [claimedSize_toBytes_append hfits, ← length_toBytes, List.drop_left]
    · rintro ⟨⟨hfits, tail, rfl⟩, rfl⟩
      refine ⟨hfits, ?_⟩
      rw [claimedSize_toBytes_append hfits, ← length_toBytes, List.drop_left]
  case awaited =>
    intro rest
    rw [takeFrom_eq_none_iff, next_eq_none_iff, decode_wants_bytes_iff]
  case refused =>
    intro e rest
    rw [takeFrom_eq_error_iff, next_eq_error_iff]
    constructor
    · rintro ⟨⟨low, high, address, size, tail, rfl, hlarge, rfl⟩, rfl⟩
      refine ⟨⟨?_, hlarge⟩, rfl, rfl⟩
      simp only [List.length_cons, headerLength]
      omega
    · rintro ⟨⟨hheader, hlarge⟩, rfl, rfl⟩
      obtain ⟨low, high, address, size, tail, rfl⟩ := exists_header hheader
      exact ⟨⟨low, high, address, size, tail, rfl, hlarge, rfl⟩, rfl⟩

/-- **A stream buffer gives what decoding gives.** A packet is taken from the front of a buffer
exactly if the buffer decodes to it, nothing is taken exactly if decoding wants bytes of an allowed
frame, and a larger frame is refused at its header. So frames within the limit come out of a stream
as they went in, with nothing left over, however their bytes are split into chunks. -/
theorem takes_as_decoded :
    (∀ buffer, TakesAsDecoded buffer) ∧
    ∀ (packets : List Packet) (chunks : List Bytes),
      (∀ packet ∈ packets, packet.data.length ≤ payloadLimit) → chunks.flatten = wire packets →
      chunks.foldl Drained.feed .nothing = ⟨packets, none, []⟩ := by
  refine ⟨takesAsDecoded, fun packets chunks hfits hchunks => ?_⟩
  rw [foldl_feed_nothing, hchunks, drain_wire hfits]

/-- Two frames, the second without data, in three chunks that end within them. -/
theorem takes_as_decoded_split :
    let packets : List Packet := [⟨0x1234, 9, [1, 2]⟩, ⟨0, 5, []⟩]
    let chunks : List Bytes := [[0x34, 0x12, 9], [2, 1, 2, 0], [0, 5, 0]]
    (∀ packet ∈ packets, packet.data.length ≤ payloadLimit) ∧ chunks.flatten = wire packets ∧
      chunks.foldl Drained.feed .nothing = ⟨packets, none, []⟩ :=
  ⟨by decide, by decide, takes_as_decoded.2 _ _ (by decide) (by decide)⟩

end Packet

end DeviceBus
