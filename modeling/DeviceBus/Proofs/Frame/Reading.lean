import DeviceBus.Frame.SocketPair
import DeviceBus.Proofs.Frame.Cutting

/-!
# Frames read from a stream

Every call of a reader takes some reads of its stream. What the reads brought in is either handed
out as packets or still in the reader's buffer, and what went wrong in them is passed on, each
failure once and in order, but for interrupted reads. So the packets are those of the bytes, read
however the stream cuts them and wherever it fails.

## Main results

* `reads_nextPacket`, `reads_takePackets`: what one call and what successive calls do.
* `reads_frames`: the packets of every run are what its reads are cut into, and its errors are those
  of its reads.
* `takePackets_of_isSmooth`: a stream of frames that does not fail reads back packet by packet.
-/

namespace DeviceBus

/-! ## The reads of a stream -/

namespace ReadStep

/-- The results of so many reads, and the steps left. -/
def readTimes : Nat → List ReadStep → List (Except IoError Bytes) × List ReadStep
  | 0, steps => ([], steps)
  | count + 1, steps =>
    let later := readTimes count (read steps).2
    ((read steps).1 :: later.1, later.2)

/-- The bytes that reads brought in. -/
def bytesOf (results : List (Except IoError Bytes)) : Bytes :=
  results.flatMap fun
    | .ok bytes => bytes
    | .error _ => []

/-- What a reader passes on of one read: the end of the stream, and every failure but an
interruption. -/
def surfacing : Except IoError Bytes → Option FrameError
  | .ok [] => some .connectionClosed
  | .ok (_ :: _) => none
  | .error e => if e.kind = .interrupted then none else some (.io e)

theorem readTimes_add (count later : Nat) (steps : List ReadStep) :
    readTimes (count + later) steps =
      ((readTimes count steps).1 ++ (readTimes later (readTimes count steps).2).1,
        (readTimes later (readTimes count steps).2).2) := by
  induction count generalizing steps with
  | zero => simp [readTimes]
  | succ count ih => simp [Nat.succ_add, readTimes, ih]

@[simp] theorem bytesOf_nil : bytesOf [] = [] := rfl

@[simp] theorem bytesOf_cons_ok (bytes : Bytes) (results : List (Except IoError Bytes)) :
    bytesOf (.ok bytes :: results) = bytes ++ bytesOf results := rfl

@[simp] theorem bytesOf_cons_error (e : IoError) (results : List (Except IoError Bytes)) :
    bytesOf (.error e :: results) = bytesOf results := rfl

@[simp] theorem bytesOf_append (results later : List (Except IoError Bytes)) :
    bytesOf (results ++ later) = bytesOf results ++ bytesOf later := List.flatMap_append

theorem bytesOf_read_append_unread (steps : List ReadStep) :
    bytesOf [(read steps).1] ++ SocketPair.unread (read steps).2 = SocketPair.unread steps := by
  match steps with
  | [] => rfl
  | failure error :: rest => rfl
  | data bytes :: rest =>
    simp only [read]
    split <;> simp [SocketPair.unread, ← List.append_assoc]

/-- Reads move bytes out of the stream and lose none. -/
theorem bytesOf_readTimes_append_unread (count : Nat) (steps : List ReadStep) :
    bytesOf (readTimes count steps).1 ++ SocketPair.unread (readTimes count steps).2 =
      SocketPair.unread steps := by
  induction count generalizing steps with
  | zero => rfl
  | succ count ih =>
    rw [← bytesOf_read_append_unread steps, ← ih (read steps).2, ← List.append_assoc,
      ← bytesOf_append]
    rfl

end ReadStep

/-- Whether an error is the stream's, not one of the bytes that came from it. -/
def FrameError.isOfStream : FrameError → Bool
  | .io _ | .connectionClosed => true
  | _ => false

namespace Reader

open ReadStep

/-- The packets among a reader's answers. -/
def packetsOf (answers : List (Except FrameError Packet)) : List Packet :=
  answers.filterMap fun
    | .ok packet => some packet
    | .error _ => none

/-- The errors of the stream among a reader's answers. -/
def streamErrorsOf (answers : List (Except FrameError Packet)) : List FrameError :=
  answers.filterMap fun
    | .error e => if e.isOfStream then some e else none
    | .ok _ => none

@[simp] theorem packetsOf_nil : packetsOf [] = [] := rfl

@[simp] theorem packetsOf_cons_ok (packet : Packet) (answers : List (Except FrameError Packet)) :
    packetsOf (.ok packet :: answers) = packet :: packetsOf answers := rfl

@[simp] theorem packetsOf_cons_error (e : FrameError) (answers : List (Except FrameError Packet)) :
    packetsOf (.error e :: answers) = packetsOf answers := rfl

theorem packetsOf_cons (answer : Except FrameError Packet)
    (answers : List (Except FrameError Packet)) :
    packetsOf (answer :: answers) = packetsOf [answer] ++ packetsOf answers := by
  cases answer <;> rfl

theorem streamErrorsOf_cons (answer : Except FrameError Packet)
    (answers : List (Except FrameError Packet)) :
    streamErrorsOf (answer :: answers) = streamErrorsOf [answer] ++ streamErrorsOf answers := by
  rw [streamErrorsOf, streamErrorsOf, streamErrorsOf, ← List.filterMap_append,
    List.singleton_append]

/-! ## What calls do -/

/-- What calls with the given answers did to a reader, in so many reads of its stream. -/
structure Reads (reader : Reader) (answers : List (Except FrameError Packet)) (after : Reader)
    (count : Nat) : Prop where
  source : after.source = (readTimes count reader.source).2
  bytes : reader.buffer ++ bytesOf (readTimes count reader.source).1 =
    Packet.wire (packetsOf answers) ++ after.buffer
  fits : ∀ packet ∈ packetsOf answers, packet.Fits
  errors : streamErrorsOf answers = (readTimes count reader.source).1.filterMap surfacing
  isOver : ∀ e, answers.getLast? = some (.error e) → (Packet.drain after.buffer).packets = []
  isJammed : ∀ e, .error e ∈ answers → e.isOfStream = false → Packet.next after.buffer = .error e

/-- A call may read once more at its start, when no frame is in the buffer, if that read is not
passed on. -/
theorem Reads.after_read {reader after : Reader} {answers : List (Except FrameError Packet)}
    {count : Nat} {result : Except IoError Bytes} {source : List ReadStep} {buffer : Bytes}
    (hread : ReadStep.read reader.source = (result, source)) (hquiet : surfacing result = none)
    (hbuffer : buffer = reader.buffer ++ bytesOf [result])
    (h : Reads ⟨buffer, source⟩ answers after count) : Reads reader answers after (count + 1) where
  source := by rw [h.source, readTimes, hread]
  bytes := by
    have hbytes := h.bytes
    rw [hbuffer, List.append_assoc, ← bytesOf_append] at hbytes
    rw [← hbytes, readTimes, hread]
    rfl
  fits := h.fits
  errors := by rw [h.errors, readTimes, hread, List.filterMap_cons_none hquiet]
  isOver := h.isOver
  isJammed := h.isJammed

theorem reads_nextPacket (reader : Reader) :
    ∃ count, Reads reader [reader.nextPacket.1] reader.nextPacket.2 count := by
  fun_induction nextPacket reader with
  | case1 reader e hnext =>
    obtain ⟨_, _, _, size, _, -, -, rfl⟩ := Packet.next_eq_error_iff.mp hnext
    refine ⟨0, rfl, by simp [readTimes], by simp, rfl, fun _ _ => ?_, by simp [hnext]⟩
    rw [Packet.drain_of_next_error hnext]
  | case2 reader packet rest hnext =>
    obtain ⟨hfits, hbuffer⟩ := Packet.next_eq_some_iff.mp hnext
    exact ⟨0, rfl, by simp [readTimes, hbuffer], by simpa using hfits, rfl, by simp, by simp⟩
  | case3 reader hnext e source hread hinterrupted ih =>
    obtain ⟨count, h⟩ := ih
    exact ⟨count + 1, h.after_read hread (by simp [surfacing, hinterrupted]) (by simp)⟩
  | case4 reader hnext e source hread hinterrupted =>
    refine ⟨1, by simp [readTimes, hread], by simp [readTimes, hread], by simp, ?_, fun _ _ => ?_,
      by simp [FrameError.isOfStream]⟩
    · simp [streamErrorsOf, FrameError.isOfStream, readTimes, hread, surfacing, hinterrupted]
    · rw [Packet.drain_of_next_none hnext]
  | case5 reader hnext source hread =>
    refine ⟨1, by simp [readTimes, hread], by simp [readTimes, hread], by simp, ?_, fun _ _ => ?_,
      by simp [FrameError.isOfStream]⟩
    · simp [streamErrorsOf, FrameError.isOfStream, readTimes, hread, surfacing]
    · rw [Packet.drain_of_next_none hnext]
  | case6 reader hnext b bytes source hread ih =>
    obtain ⟨count, h⟩ := ih
    exact ⟨count + 1, h.after_read hread rfl (by simp)⟩

/-- With an oversized frame in front, a reader gives the same answer for good and reads no more. -/
theorem takePackets_of_isJammed {reader : Reader} {e : FrameError}
    (h : Packet.next reader.buffer = .error e) (calls : Nat) :
    reader.takePackets calls = (List.replicate calls (.error e), reader) := by
  have hcall : reader.nextPacket = (.error e, reader) := by
    rw [nextPacket]
    split <;> simp_all
  induction calls with
  | zero => rfl
  | succ calls ih => simp [takePackets, hcall, ih, List.replicate_succ]

theorem reads_takePackets (calls : Nat) (reader : Reader) :
    ∃ count, Reads reader (reader.takePackets calls).1 (reader.takePackets calls).2 count := by
  induction calls generalizing reader with
  | zero =>
    exact ⟨0, rfl, by simp [takePackets, readTimes], by simp [takePackets], rfl,
      by simp [takePackets], by simp [takePackets]⟩
  | succ calls ih =>
    obtain ⟨one, hfirst⟩ := reads_nextPacket reader
    obtain ⟨more, hlater⟩ := ih reader.nextPacket.2
    simp only [takePackets]
    generalize hanswer : reader.nextPacket.1 = answer at hfirst ⊢
    generalize hmiddle : reader.nextPacket.2 = middle at hfirst hlater ⊢
    have hreads := readTimes_add one more reader.source
    rw [← hfirst.source] at hreads
    refine ⟨one + more, ?_⟩
    constructor
    case source => rw [hreads, hlater.source]
    case bytes =>
      rw [hreads, bytesOf_append, ← List.append_assoc, hfirst.bytes, List.append_assoc,
        hlater.bytes, packetsOf_cons answer (takePackets calls middle).1, Packet.wire_append,
        List.append_assoc]
    case fits =>
      rw [packetsOf_cons]
      intro packet hpacket
      exact (List.mem_append.mp hpacket).elim (hfirst.fits packet) (hlater.fits packet)
    case errors =>
      rw [hreads, List.filterMap_append, ← hfirst.errors, ← hlater.errors, ← streamErrorsOf_cons]
    case isOver =>
      intro e he
      cases calls with
      | zero => exact hfirst.isOver e (by simpa [takePackets] using he)
      | succ calls =>
        refine hlater.isOver e ?_
        rw [List.getLast?_cons_of_ne_nil (by simp [takePackets])] at he
        exact he
    case isJammed =>
      intro e he hstream
      rcases List.mem_cons.mp he with rfl | hmem
      · have hjam := hfirst.isJammed e (by simp) hstream
        rw [takePackets_of_isJammed hjam]
        exact hjam
      · exact hlater.isJammed e hmem hstream

/-! ## Streams that do not fail -/

/-- A stream whose reads bring bytes or are interrupted, until its end. -/
def IsSmooth (steps : List ReadStep) : Prop :=
  ∀ step ∈ steps, (∃ b bytes, step = .data (b :: bytes)) ∨
    ∃ e : IoError, step = .failure e ∧ e.kind = .interrupted

/-- Nothing is passed on of a smooth stream before its end, and the rest of it is smooth. -/
theorem IsSmooth.read {steps : List ReadStep} (h : IsSmooth steps) :
    IsSmooth (ReadStep.read steps).2 ∧
      (steps = [] ∨ surfacing (ReadStep.read steps).1 = none) := by
  cases steps with
  | nil => exact ⟨h, .inl rfl⟩
  | cons step rest =>
    obtain ⟨hstep, hrest⟩ := List.forall_mem_cons.mp h
    rcases hstep with ⟨b, bytes, rfl⟩ | ⟨e, rfl, hkind⟩
    · simp only [ReadStep.read]
      split
      · exact ⟨hrest, .inr rfl⟩
      next hlong =>
        have hpos : readChunk ≠ 0 := by decide
        obtain ⟨c, later, hlater⟩ := List.exists_cons_of_ne_nil
          (mt List.drop_eq_nil_iff.mp hlong : (b :: bytes).drop readChunk ≠ [])
        refine ⟨?_, .inr ?_⟩
        · rw [hlater]
          exact List.forall_mem_cons.mpr ⟨.inl ⟨c, later, rfl⟩, hrest⟩
        · obtain ⟨size, hsize⟩ := Nat.exists_eq_succ_of_ne_zero hpos
          rw [hsize]
          rfl
    · exact ⟨hrest, .inr (by simp [ReadStep.read, surfacing, hkind])⟩

/-- A call on a smooth stream reads until the bytes decide: a frame in front of all of them is handed
out, and if they end before a frame does, so does the stream. -/
theorem nextPacket_of_isSmooth {reader : Reader} (hsmooth : IsSmooth reader.source) :
    (∀ packet rest, Packet.next (reader.buffer ++ SocketPair.unread reader.source) =
        .ok (some (packet, rest)) →
      reader.nextPacket.1 = .ok packet ∧ IsSmooth reader.nextPacket.2.source ∧
        reader.nextPacket.2.buffer ++ SocketPair.unread reader.nextPacket.2.source = rest) ∧
    (Packet.next (reader.buffer ++ SocketPair.unread reader.source) = .ok none →
      reader.nextPacket.1 = .error .connectionClosed) := by
  fun_induction nextPacket reader with
  | case1 reader e hnext => simp [Packet.next_append_of_error hnext]
  | case2 reader taken later hnext =>
    rw [Packet.next_append_of_some hnext]
    refine ⟨fun packet rest hfront => ?_, nofun⟩
    obtain ⟨rfl, rfl⟩ : taken = packet ∧ later ++ SocketPair.unread reader.source = rest := by
      simpa using hfront
    exact ⟨rfl, hsmooth, rfl⟩
  | case3 reader hnext e source hread hinterrupted ih =>
    have hunread := bytesOf_read_append_unread reader.source
    have hlater := hsmooth.read.1
    simp only [hread, bytesOf_cons_error, bytesOf_nil, List.nil_append] at hunread hlater
    rw [← hunread]
    exact ih hlater
  | case4 reader hnext e source hread hinterrupted =>
    rcases hsmooth.read.2 with hend | hquiet
    · simp [hend, ReadStep.read] at hread
    · simp [hread, surfacing, hinterrupted] at hquiet
  | case5 reader hnext source hread =>
    rcases hsmooth.read.2 with hend | hquiet
    · simp [hend, SocketPair.unread, hnext]
    · simp [hread, surfacing] at hquiet
  | case6 reader hnext b bytes source hread ih =>
    have hunread := bytesOf_read_append_unread reader.source
    have hlater := hsmooth.read.1
    simp only [hread, bytesOf_cons_ok, bytesOf_nil, List.append_nil] at hunread hlater
    rw [← hunread, ← List.append_assoc]
    exact ih hlater

/-- The frames of a stream that does not fail are read one by one. -/
theorem takePackets_of_isSmooth {packets : List Packet} {reader : Reader} {rest : Bytes}
    (hsmooth : IsSmooth reader.source) (hfits : ∀ packet ∈ packets, packet.Fits)
    (hbytes : reader.buffer ++ SocketPair.unread reader.source = Packet.wire packets ++ rest) :
    (reader.takePackets packets.length).1 = packets.map .ok ∧
      IsSmooth (reader.takePackets packets.length).2.source ∧
      (reader.takePackets packets.length).2.buffer ++
        SocketPair.unread (reader.takePackets packets.length).2.source = rest := by
  induction packets generalizing reader with
  | nil => exact ⟨rfl, hsmooth, hbytes⟩
  | cons packet packets ih =>
    rw [Packet.wire_cons, List.append_assoc] at hbytes
    have hfront := Packet.next_toBytes_append (hfits packet (by simp)) (Packet.wire packets ++ rest)
    rw [← hbytes] at hfront
    obtain ⟨hpacket, hlater, hrest⟩ := (nextPacket_of_isSmooth hsmooth).1 packet _ hfront
    obtain ⟨hpackets, hdone⟩ := ih hlater (fun p hp => hfits p (by simp [hp])) hrest
    simp only [List.length_cons, takePackets]
    exact ⟨by rw [hpacket, hpackets, List.map_cons], hdone⟩

theorem takePackets_succ (calls : Nat) (reader : Reader) :
    (reader.takePackets (calls + 1)).1 =
      (reader.takePackets calls).1 ++ [(reader.takePackets calls).2.nextPacket.1] := by
  induction calls generalizing reader with
  | zero => rfl
  | succ calls ih =>
    rw [takePackets, ih reader.nextPacket.2]
    rfl

/-- A smooth stream of frames is read to its end without a failure. -/
theorem takePackets_ofSource_of_isSmooth {packets : List Packet} {source : List ReadStep}
    (hsmooth : IsSmooth source) (hfits : ∀ packet ∈ packets, packet.Fits)
    (hbytes : SocketPair.unread source = Packet.wire packets) :
    ((ofSource source).takePackets (packets.length + 1)).1 =
      packets.map .ok ++ [.error .connectionClosed] := by
  have hall : (ofSource source).buffer ++ SocketPair.unread (ofSource source).source =
      Packet.wire packets ++ [] := by rw [List.append_nil, ← hbytes]; rfl
  obtain ⟨hpackets, hlater, hrest⟩ := takePackets_of_isSmooth hsmooth hfits hall
  rw [takePackets_succ, hpackets, (nextPacket_of_isSmooth hlater).2 (by rw [hrest]; rfl)]

/-! ## The packets of a stream -/

/-- The answers to the calls of a run of a fresh reader, explained by the reads it took. -/
structure Faithful (source : List ReadStep) (answers : List (Except FrameError Packet))
    (reader : Reader) (results : List (Except IoError Bytes)) : Prop where
  /-- What was read is handed out or kept, and what was not read is still in the stream. -/
  bytes : bytesOf results = Packet.wire (packetsOf answers) ++ reader.buffer
  rest : bytesOf results ++ SocketPair.unread reader.source = SocketPair.unread source
  /-- Draining what was read cuts it into frames. -/
  isCut : Packet.Cuts (bytesOf results) (Packet.drain (bytesOf results)).packets
    (Packet.drain (bytesOf results)).rest
  /-- However it is cut into frames, the packets are the first of them, in order. -/
  isStart : ∀ frames left, Packet.Cuts (bytesOf results) frames left → packetsOf answers <+: frames
  /-- They are all of the frames when the last call failed, and the buffer is what is left. -/
  isAll : ∀ e, answers.getLast? = some (.error e) →
    Packet.Cuts (bytesOf results) (packetsOf answers) reader.buffer
  /-- Each failed read and each end of the stream is passed on once, in order. -/
  errors : streamErrorsOf answers = results.filterMap surfacing
  isUninterrupted : ∀ e, .error (.io e) ∈ answers → e.kind ≠ .interrupted
  /-- Any other error is about an oversized frame in front. -/
  others : ∀ e, .error e ∈ answers → e.isOfStream = false → ∃ low high address size later,
    reader.buffer = low :: high :: address :: size :: later ∧ payloadLimit < size.toNat ∧
      e = .payloadTooLarge size.toNat payloadLimit
  /-- An oversized frame in front stops the reader for good. -/
  isStopped : ∀ low high address size later,
    reader.buffer = low :: high :: address :: size :: later → payloadLimit < size.toNat →
      ∀ calls, reader.takePackets calls =
        (List.replicate calls (.error (.payloadTooLarge size.toNat payloadLimit)), reader)

theorem mem_streamErrorsOf {answers : List (Except FrameError Packet)} {e : FrameError}
    (h : .error e ∈ answers) (hstream : e.isOfStream = true) : e ∈ streamErrorsOf answers :=
  List.mem_filterMap.mpr ⟨_, h, by simp [hstream]⟩

theorem kind_ne_interrupted_of_surfacing {result : Except IoError Bytes} {e : IoError}
    (h : surfacing result = some (.io e)) : e.kind ≠ .interrupted := by
  unfold surfacing at h
  split at h
  · cases h
  · cases h
  · split at h
    · cases h
    next hkind => exact (FrameError.io.inj (Option.some.inj h)) ▸ hkind

theorem Reads.faithful {source : List ReadStep} {answers : List (Except FrameError Packet)}
    {after : Reader} {count : Nat} (h : Reads (ofSource source) answers after count) :
    Faithful source answers after (readTimes count source).1 := by
  have hbytes : bytesOf (readTimes count source).1 =
      Packet.wire (packetsOf answers) ++ after.buffer := h.bytes
  have hdrain := Packet.drain_wire_append h.fits after.buffer
  rw [← hbytes] at hdrain
  constructor
  case bytes => exact hbytes
  case rest => rw [h.source]; exact bytesOf_readTimes_append_unread count source
  case isCut => exact Packet.cuts_drain _
  case isStart =>
    intro frames left hcut
    rw [← hcut.eq_drain.1, hdrain]
    exact List.prefix_append _ _
  case isAll =>
    intro e he
    exact ⟨hbytes, h.fits, Packet.packets_drain_eq_nil_iff.1 (h.isOver e he)⟩
  case errors => exact h.errors
  case isUninterrupted =>
    intro e he
    have hmem := mem_streamErrorsOf he rfl
    rw [h.errors] at hmem
    obtain ⟨result, -, hresult⟩ := List.mem_filterMap.mp hmem
    exact kind_ne_interrupted_of_surfacing hresult
  case others => exact fun e he hstream => Packet.next_eq_error_iff.mp (h.isJammed e he hstream)
  case isStopped =>
    intro low high address size later hbuffer hlarge
    exact takePackets_of_isJammed
      (Packet.next_eq_error_iff.mpr ⟨low, high, address, size, later, hbuffer, hlarge, rfl⟩)

/-- Packets are read as their frames stand in the stream: however the stream is cut into reads and
wherever it fails, the calls hand out the frames of the bytes that were read and pass on each
failure once. Two streams of the same bytes, read until no byte is left and a call fails, give the
same packets. -/
theorem reads_frames :
    (∀ (source : List ReadStep) (calls : Nat), ∃ count,
      (readTimes count source).2 = ((ofSource source).takePackets calls).2.source ∧
      Faithful source ((ofSource source).takePackets calls).1
        ((ofSource source).takePackets calls).2 (readTimes count source).1) ∧
    ∀ (source other : List ReadStep) (calls others : Nat) (e d : FrameError),
      SocketPair.unread source = SocketPair.unread other →
      SocketPair.unread ((ofSource source).takePackets calls).2.source = [] →
      SocketPair.unread ((ofSource other).takePackets others).2.source = [] →
      ((ofSource source).takePackets calls).1.getLast? = some (.error e) →
      ((ofSource other).takePackets others).1.getLast? = some (.error d) →
      packetsOf ((ofSource source).takePackets calls).1 =
        packetsOf ((ofSource other).takePackets others).1 := by
  have hruns := fun source calls => reads_takePackets calls (ofSource source)
  refine ⟨fun source calls => ?_, fun source other calls others e d hsame hleft hleft' he hd => ?_⟩
  · obtain ⟨count, h⟩ := hruns source calls
    exact ⟨count, h.source.symm, h.faithful⟩
  · obtain ⟨count, h⟩ := hruns source calls
    obtain ⟨count', h'⟩ := hruns other others
    have hread := h.faithful.rest
    have hread' := h'.faithful.rest
    rw [hleft, List.append_nil] at hread
    rw [hleft', List.append_nil] at hread'
    have hcut := (h.faithful.isAll e he).eq_drain.1
    have hcut' := (h'.faithful.isAll d hd).eq_drain.1
    rw [← hcut, ← hcut', hread, hread', hsame]

/-- A frame in two reads, with a timeout in the middle of its header. -/
def tornStream : List ReadStep :=
  [.data [0, 0], .failure ⟨.timedOut, "timed out"⟩, .data [3, 1, 9]]

theorem takePackets_tornStream : (ofSource tornStream).takePackets 3 =
    ([.error (.io ⟨.timedOut, "timed out"⟩), .ok ⟨0, 3, [9]⟩, .error .connectionClosed],
      ⟨[], []⟩) := by
  simp [takePackets, nextPacket, tornStream, ofSource, Packet.next, ReadStep.read, readChunk,
    frameLimit, headerLength, payloadLimit, Bytes.word16]

theorem takePackets_wholeFrame : (ofSource [.data [0, 0, 3, 1, 9]]).takePackets 2 =
    ([.ok ⟨0, 3, [9]⟩, .error .connectionClosed], ⟨[], []⟩) := by
  simp [takePackets, nextPacket, ofSource, Packet.next, ReadStep.read, readChunk, frameLimit,
    headerLength, payloadLimit, Bytes.word16]

/-- The torn frame reads like the whole one. -/
theorem reads_frames_of_tornStream :
    packetsOf ((ofSource tornStream).takePackets 3).1 =
      packetsOf ((ofSource [.data [0, 0, 3, 1, 9]]).takePackets 2).1 :=
  reads_frames.2 tornStream [.data [0, 0, 3, 1, 9]] 3 2 .connectionClosed .connectionClosed rfl
    (by rw [takePackets_tornStream]; rfl) (by rw [takePackets_wholeFrame]; rfl)
    (by rw [takePackets_tornStream]; rfl) (by rw [takePackets_wholeFrame]; rfl)

end Reader

end DeviceBus
