import DeviceBus.Frame.Packet

/-!
# Reading frames from a stream

A stream is described by what its reads give, one after the other: some bytes, no bytes (the end
of the stream, for that read) or a failure. A reader keeps the bytes that do not yet make a frame
and hands out whole packets, however the reads cut them.

A read takes at most `readChunk` bytes of a piece; the rest of the piece comes with the next one.
An interrupted read is repeated, any other failure is passed on and loses nothing.
-/

namespace DeviceBus

/-- The most bytes that one read takes. -/
def readChunk : Nat := 4 * frameLimit

/-- What a stream has for its readers. -/
inductive ReadStep where
  /-- Bytes to be read; none of them means the end of the stream for one read. -/
  | data (bytes : Bytes)
  /-- A read that fails. -/
  | failure (error : IoError)
  deriving DecidableEq, Repr

namespace ReadStep

/-- One read: the bytes or the failure, and the steps left. After the last step every read meets
the end of the stream. -/
def read : List ReadStep → Except IoError Bytes × List ReadStep
  | [] => (.ok [], [])
  | failure error :: rest => (.error error, rest)
  | data bytes :: rest =>
    if bytes.length ≤ readChunk then (.ok bytes, rest)
    else (.ok (bytes.take readChunk), data (bytes.drop readChunk) :: rest)

/-- What is left to read: one for each step and one for each byte. -/
def weight : List ReadStep → Nat
  | [] => 0
  | failure _ :: rest => 1 + weight rest
  | data bytes :: rest => 1 + bytes.length + weight rest

/-- A read that does not meet the end of the stream uses something up. -/
theorem weight_read_lt {steps : List ReadStep} (h : (read steps).1 ≠ .ok []) :
    weight (read steps).2 < weight steps := by
  match steps with
  | [] => simp [read] at h
  | failure error :: rest => simp [read, weight]
  | data bytes :: rest =>
    simp only [read]
    split
    · simp only [weight]; omega
    · simp only [weight, List.length_drop, readChunk, frameLimit, headerLength, payloadLimit] at *
      omega

end ReadStep

/-- A reader: bytes received but not yet handed out, and the stream. -/
structure Reader where
  buffer : Bytes
  source : List ReadStep
  deriving DecidableEq, Repr

namespace Reader

/-- A reader of a fresh stream. -/
def ofSource (source : List ReadStep) : Reader := ⟨[], source⟩

/-- The next packet, or why there is none. -/
def nextPacket (reader : Reader) : Except FrameError Packet × Reader :=
  match Packet.next reader.buffer with
  | .error e => (.error e, reader)
  | .ok (some (packet, rest)) => (.ok packet, { reader with buffer := rest })
  | .ok none =>
    match _h : ReadStep.read reader.source with
    | (.error e, source) =>
      if e.kind = .interrupted then nextPacket { reader with source }
      else (.error (.io e), { reader with source })
    | (.ok [], source) => (.error .connectionClosed, { reader with source })
    | (.ok (b :: bytes), source) =>
      nextPacket ⟨reader.buffer ++ b :: bytes, source⟩
termination_by ReadStep.weight reader.source
decreasing_by
  all_goals
    have hlt : ReadStep.weight (ReadStep.read reader.source).2 < ReadStep.weight reader.source :=
      ReadStep.weight_read_lt (by rw [_h]; simp)
    rw [_h] at hlt
    exact hlt

/-- The answers of successive reads. -/
def takePackets : Nat → Reader → List (Except FrameError Packet) × Reader
  | 0, reader => ([], reader)
  | count + 1, reader =>
    let first := reader.nextPacket
    let later := takePackets count first.2
    (first.1 :: later.1, later.2)

end Reader

end DeviceBus
