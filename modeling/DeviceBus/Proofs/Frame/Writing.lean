import DeviceBus.Frame.Writer
import DeviceBus.Proofs.Frame.Reading
import Mathlib.Algebra.GroupWithZero.Nat

/-!
# Frames written to a stream

A writer's calls send a payload, a packet or the bytes of a frame as they are. Whatever the stream
does, it has taken the whole frame of a call that succeeds and a part from its start of one that
fails, nothing twice and nothing out of order. So what a writer wrote without failing is read back
frame by frame.

## Main results

* `offered_flush`, `offered_offer`: what flushing and offering bytes leave behind.
* `outcome_carryOut`: what one call leaves behind.
* `writes_frames`: the outcome of each call of a run, and the packets read from what a run wrote.
-/

namespace DeviceBus

/-- The bytes that a call of the stream took. -/
def WriteCall.size : WriteCall → Nat
  | .accepted count => count
  | _ => 0

namespace Writer

/-! ## Offering bytes -/

/-- What is left behind by offering bytes to the stream and flushing it. -/
structure Offered (bytes : Bytes) (before : Writer) (answer : Except FrameError Unit)
    (after : Writer) : Prop where
  /-- The bytes taken are those of the calls made. -/
  calls : ∃ made, after.calls = before.calls ++ made ∧
    after.written.length = before.written.length + (made.map WriteCall.size).sum
  /-- After a success all bytes are taken and the last call is the only flush that succeeded. -/
  isWhole : answer = .ok () → after.written = before.written ++ bytes ∧
    ∃ tries, after.calls = before.calls ++ tries ++ [.flushed] ∧ .flushed ∉ tries
  /-- After a failure some of the bytes are taken, and all of them only if a flush failed. -/
  isPart : ∀ e, answer = .error e → ∃ count,
    after.written = before.written ++ bytes.take count ∧
      (bytes.length ≤ count → ∃ kind, after.calls.getLast? = some (.flushFailed kind))
  /-- Interrupted and blocked calls are not failures. -/
  isLasting : ∀ e, answer = .error (.io e) → e.kind.isTransient = false

/-- A call of the stream may come first, if it takes bytes from the front and is no flush that
succeeds. -/
theorem Offered.after_call {bytes : Bytes} {before middle after : Writer}
    {answer : Except FrameError Unit} {call : WriteCall} {count : Nat}
    (hcalls : middle.calls = before.calls ++ [call])
    (hwritten : middle.written = before.written ++ bytes.take count)
    (hsize : (bytes.take count).length = call.size) (hcall : call ≠ .flushed)
    (h : Offered (bytes.drop count) middle answer after) : Offered bytes before answer after where
  calls := by
    obtain ⟨made, hmade, hlength⟩ := h.calls
    refine ⟨call :: made, by rw [hmade, hcalls, List.append_assoc]; rfl, ?_⟩
    rw [hlength, hwritten, List.length_append, hsize, List.map_cons, List.sum_cons, Nat.add_assoc]
  isWhole := by
    intro hok
    obtain ⟨hall, tries, htries, hnew⟩ := h.isWhole hok
    refine ⟨by rw [hall, hwritten, List.append_assoc, List.take_append_drop], call :: tries, ?_, ?_⟩
    · rw [htries, hcalls, List.append_assoc before.calls]
      rfl
    · simpa [hnew] using hcall.symm
  isPart := by
    intro e he
    obtain ⟨more, hpart, hflush⟩ := h.isPart e he
    refine ⟨count + more, by rw [hpart, hwritten, List.append_assoc, List.take_add], fun hall => ?_⟩
    exact hflush (by rw [List.length_drop]; omega)
  isLasting := h.isLasting

/-- A call of the stream that takes nothing may come first. -/
theorem Offered.after_miss {bytes : Bytes} {before middle after : Writer}
    {answer : Except FrameError Unit} {call : WriteCall}
    (hcalls : middle.calls = before.calls ++ [call]) (hwritten : middle.written = before.written)
    (hsize : call.size = 0) (hcall : call ≠ .flushed) (h : Offered bytes middle answer after) :
    Offered bytes before answer after := by
  have hnothing : middle.written = before.written ++ bytes.take 0 := by
    rw [hwritten, List.take_zero, List.append_nil]
  exact Offered.after_call hcalls hnothing hsize.symm hcall h

theorem offered_flush (writer : Writer) : Offered [] writer writer.flush.1 writer.flush.2 := by
  fun_induction flush writer with
  | case1 writer e rest hscript after htransient ih =>
    have hcalls : after.calls = writer.calls ++ [.flushFailed e.kind] := rfl
    exact ih.after_miss hcalls rfl rfl nofun
  | case2 writer e rest hscript after hlasting =>
    refine ⟨⟨[.flushFailed e.kind], rfl, rfl⟩, by simp, fun _ _ => ?_, ?_⟩
    · exact ⟨0, by simp [after], fun _ => ⟨e.kind, by simp [after]⟩⟩
    · simpa using hlasting
  | case3 writer rest hscript =>
    exact ⟨⟨[.flushed], rfl, rfl⟩, fun _ => ⟨by simp, [], by simp, by simp⟩, by simp, by simp⟩
  | case4 writer hscript =>
    exact ⟨⟨[.flushed], rfl, rfl⟩, fun _ => ⟨by simp, [], by simp, by simp⟩, by simp, by simp⟩

theorem offered_offer (bytes : Bytes) (writer : Writer) :
    Offered bytes writer (writer.offer bytes).1 (writer.offer bytes).2 := by
  fun_induction offer bytes writer with
  | case1 writer => exact offered_flush writer
  | case2 writer b bytes most rest hscript count hzero =>
    dsimp only
    rw [if_pos hzero, show min most (b :: bytes).length = 0 from hzero]
    exact ⟨⟨[.accepted 0], rfl, by simp [WriteCall.size]⟩, by simp,
      fun _ _ => ⟨0, rfl, by simp⟩, by simp⟩
  | case3 writer b bytes most rest hscript count after hpos ih =>
    dsimp only
    rw [if_neg hpos]
    exact ih.after_call rfl rfl (by simp [WriteCall.size, count]) (by simp)
  | case4 writer b bytes e rest hscript after htransient ih =>
    have hcalls : after.calls = writer.calls ++ [.failed e.kind] := rfl
    exact ih.after_miss hcalls rfl rfl nofun
  | case5 writer b bytes e rest hscript after hlasting =>
    refine ⟨⟨[.failed e.kind], rfl, rfl⟩, by simp, fun _ _ => ⟨0, by simp [after], by simp⟩, ?_⟩
    simpa using hlasting
  | case6 writer b bytes haccept hfailure =>
    -- Everything on offer is taken, so only the flush is left.
    have hflush := offered_flush { writer with
      written := writer.written ++ b :: bytes
      calls := writer.calls ++ [.accepted (b :: bytes).length] }
    rw [← List.drop_length (l := b :: bytes)] at hflush
    exact hflush.after_call rfl (by simp) (by simp [WriteCall.size]) (by simp)

/-! ## Calls -/

/-- A call of a writer. -/
inductive Order where
  /-- Send a payload to an address. -/
  | send (address : UInt8) (data : Bytes)
  /-- Write a packet as it is. -/
  | packet (packet : Packet)
  /-- Write the bytes of a frame. -/
  | raw (frame : Bytes)
  deriving DecidableEq, Repr

/-- The bytes that a call is to write. -/
def Order.frame : Order → Bytes
  | .send address data => (Packet.mk 0 address data).toBytes
  | .packet written => written.toBytes
  | .raw frame => frame

/-- Make a call. -/
def carryOut : Order → Writer → Except FrameError Unit × Writer
  | .send address data, writer => writer.send address data
  | .packet packet, writer => writer.sendPacket packet
  | .raw frame, writer => writer.offer frame

/-- The answers of successive calls. -/
def carryOutAll : List Order → Writer → List (Except FrameError Unit) × Writer
  | [], writer => ([], writer)
  | order :: orders, writer =>
    let first := writer.carryOut order
    let later := carryOutAll orders first.2
    (first.1 :: later.1, later.2)

/-- What is left behind by a call. -/
structure Outcome (order : Order) (before : Writer) (answer : Except FrameError Unit)
    (after : Writer) : Prop extends Offered order.frame before answer after where
  /-- A payload that is too long fails and the stream is left alone. -/
  isRefused : ∀ address data, order = .send address data → payloadLimit < data.length →
    answer = .error (.payloadTooLarge data.length payloadLimit) ∧ after = before

theorem outcome_carryOut (order : Order) (writer : Writer) :
    Outcome order writer (writer.carryOut order).1 (writer.carryOut order).2 := by
  cases order with
  | packet packet => exact ⟨offered_offer packet.toBytes writer, nofun⟩
  | raw frame => exact ⟨offered_offer frame writer, nofun⟩
  | send address data =>
    by_cases hlarge : payloadLimit < data.length
    · have hcall : writer.carryOut (.send address data) =
          (.error (.payloadTooLarge data.length payloadLimit), writer) := by
        simp [carryOut, send, Packet.ofData, hlarge]
      rw [hcall]
      refine ⟨⟨⟨[], by simp, by simp⟩, nofun, fun _ _ => ⟨0, by simp, fun hnone => ?_⟩, nofun⟩, ?_⟩
      · exact absurd (List.eq_nil_of_length_eq_zero (Nat.le_zero.mp hnone))
          (Packet.toBytes_ne_nil ⟨0, address, data⟩)
      · rintro _ _ ⟨⟩ -
        exact ⟨rfl, rfl⟩
    · have hcall : writer.carryOut (.send address data) =
          writer.offer (Order.send address data).frame := by
        simp [carryOut, send, Packet.ofData, hlarge, Order.frame]
      rw [hcall]
      refine ⟨offered_offer _ writer, ?_⟩
      rintro _ _ ⟨⟩ hlarge'
      exact absurd hlarge' hlarge

theorem carryOutAll_append (earlier later : List Order) (writer : Writer) :
    writer.carryOutAll (earlier ++ later) =
      ((writer.carryOutAll earlier).1 ++ ((writer.carryOutAll earlier).2.carryOutAll later).1,
        ((writer.carryOutAll earlier).2.carryOutAll later).2) := by
  induction earlier generalizing writer with
  | nil => rfl
  | cons order earlier ih => simp [carryOutAll, ih]

theorem length_carryOutAll (orders : List Order) (writer : Writer) :
    (writer.carryOutAll orders).1.length = orders.length := by
  induction orders generalizing writer with
  | nil => rfl
  | cons order orders ih => simp [carryOutAll, ih]

/-- Calls that all succeed write their frames one after the other. -/
theorem written_carryOutAll {orders : List Order} {writer : Writer}
    (h : ∀ answer ∈ (writer.carryOutAll orders).1, answer = .ok ()) :
    (writer.carryOutAll orders).2.written = writer.written ++ orders.flatMap Order.frame := by
  induction orders generalizing writer with
  | nil => simp [carryOutAll]
  | cons order orders ih =>
    simp only [carryOutAll, List.mem_cons, forall_eq_or_imp] at h
    have hfirst := ((outcome_carryOut order writer).isWhole h.1).1
    rw [List.flatMap_cons, ← List.append_assoc, ← hfirst]
    exact ih h.2

/-- Every call of a run writes its frame whole and once when it succeeds and a part from its start
when it fails. What a run without failures wrote is read back packet by packet, however the stream
is cut into reads, if its frames fit. -/
theorem writes_frames (script : List WriteStep) (orders : List Order) :
    (∀ earlier order later, orders = earlier ++ order :: later → ∃ answer,
      ((ofScript script).carryOutAll orders).1[earlier.length]? = some answer ∧
        Outcome order ((ofScript script).carryOutAll earlier).2 answer
          ((ofScript script).carryOutAll (earlier ++ [order])).2) ∧
    ∀ (packets : List Packet) (source : List ReadStep),
      (∀ answer ∈ ((ofScript script).carryOutAll orders).1, answer = .ok ()) →
      orders.map Order.frame = packets.map Packet.toBytes →
      (∀ packet ∈ packets, packet.data.length ≤ payloadLimit) →
      Reader.IsSmooth source →
      SocketPair.unread source = ((ofScript script).carryOutAll orders).2.written →
      ((Reader.ofSource source).takePackets (packets.length + 1)).1 =
        packets.map .ok ++ [.error .connectionClosed] := by
  refine ⟨?_, fun packets source hok hframes hfits hsmooth hbytes => ?_⟩
  · rintro earlier order later rfl
    have houtcome := outcome_carryOut order ((ofScript script).carryOutAll earlier).2
    refine ⟨_, ?_, by rw [carryOutAll_append]; exact houtcome⟩
    rw [carryOutAll_append, ← length_carryOutAll earlier (ofScript script),
      List.getElem?_append_right Nat.le.refl, Nat.sub_self]
    rfl
  · have hwire : orders.flatMap Order.frame = Packet.wire packets := by
      rw [Packet.wire, List.flatMap_def, List.flatMap_def, hframes]
    rw [written_carryOutAll hok, hwire] at hbytes
    exact Reader.takePackets_ofSource_of_isSmooth hsmooth hfits hbytes

/-- A stream that takes a frame in two writes, with an interruption between them, and blocks the
first flush. -/
def haltingScript : List WriteStep :=
  [.accept 3, .failure ⟨.interrupted, "interrupted"⟩, .accept 9,
    .flushFailure ⟨.wouldBlock, "would block"⟩]

theorem carryOutAll_haltingScript :
    (ofScript haltingScript).carryOutAll [.send 3 [9]] =
      ([.ok ()], ⟨[], [0, 0, 3, 1, 9],
        [.accepted 3, .failed .interrupted, .accepted 2, .flushFailed .wouldBlock, .flushed]⟩) := by
  simp [carryOutAll, carryOut, ofScript, haltingScript, send, Packet.ofData, payloadLimit, offer,
    flush, Packet.toBytes, Packet.size, Bytes.ofWord16, IoErrorKind.isTransient]

/-- The frame of the halting stream is read back from two pieces. -/
theorem writes_frames_of_haltingScript :
    ((Reader.ofSource [.data [0], .data [0, 3, 1, 9]]).takePackets 2).1 =
      [.ok ⟨0, 3, [9]⟩, .error .connectionClosed] :=
  (writes_frames haltingScript [.send 3 [9]]).2 [⟨0, 3, [9]⟩] [.data [0], .data [0, 3, 1, 9]]
    (by rw [carryOutAll_haltingScript]; simp) rfl (by decide) (by simp [Reader.IsSmooth])
    (by rw [carryOutAll_haltingScript]; rfl)

end Writer

end DeviceBus
