import DeviceBus.Frame.Packet

/-!
# Writing frames to a stream

A stream is described by what its writes and flushes do, one after the other. A writer offers a
frame until all of it is accepted and then flushes once. Interrupted and blocked calls are
repeated, any other failure ends the call; a write that accepts nothing means the stream is
closed.
-/

namespace DeviceBus

/-- What a stream does with the calls of its writer. -/
inductive WriteStep where
  /-- A write takes at most so many bytes. -/
  | accept (most : Nat)
  /-- A write fails. -/
  | failure (error : IoError)
  /-- A flush fails. -/
  | flushFailure (error : IoError)
  /-- A flush succeeds. -/
  | flush
  deriving DecidableEq, Repr

/-- A call that the stream has answered. -/
inductive WriteCall where
  | accepted (count : Nat)
  | failed (kind : IoErrorKind)
  | flushed
  | flushFailed (kind : IoErrorKind)
  deriving DecidableEq, Repr

/-- Whether a failed call is repeated. -/
def IoErrorKind.isTransient : IoErrorKind → Bool
  | .interrupted | .wouldBlock => true
  | _ => false

/-- A writer: what its stream will do, the bytes accepted and the calls made so far. -/
structure Writer where
  script : List WriteStep
  written : Bytes
  calls : List WriteCall
  deriving DecidableEq, Repr

namespace Writer

/-- A writer on a fresh stream. -/
def ofScript (script : List WriteStep) : Writer := ⟨script, [], []⟩

/-- Flush the stream. Where the script holds no step for a flush, it succeeds. -/
def flush (writer : Writer) : Except FrameError Unit × Writer :=
  match _h : writer.script with
  | .flushFailure e :: rest =>
    let after := { writer with script := rest, calls := writer.calls ++ [.flushFailed e.kind] }
    if e.kind.isTransient then flush after else (.error (.io e), after)
  | .flush :: rest =>
    (.ok (), { writer with script := rest, calls := writer.calls ++ [.flushed] })
  | _ => (.ok (), { writer with calls := writer.calls ++ [.flushed] })
termination_by writer.script.length
decreasing_by rw [_h]; simp

/-- Offer bytes until all are accepted, then flush. Where the script holds no step for a write,
everything offered is accepted. -/
def offer (bytes : Bytes) (writer : Writer) : Except FrameError Unit × Writer :=
  match bytes with
  | [] => writer.flush
  | _ :: _ =>
    match _h : writer.script with
    | .accept most :: rest =>
      let count := min most bytes.length
      let after : Writer :=
        ⟨rest, writer.written ++ bytes.take count, writer.calls ++ [.accepted count]⟩
      if count = 0 then (.error .connectionClosed, after)
      else offer (bytes.drop count) after
    | .failure e :: rest =>
      let after := { writer with script := rest, calls := writer.calls ++ [.failed e.kind] }
      if e.kind.isTransient then offer bytes after else (.error (.io e), after)
    | _ =>
      flush
        { writer with
          written := writer.written ++ bytes
          calls := writer.calls ++ [.accepted bytes.length] }
termination_by writer.script.length
decreasing_by
  · rw [_h]; simp
  · rw [_h]; simp

/-- Write a packet as it is, checksum included. -/
def sendPacket (packet : Packet) (writer : Writer) : Except FrameError Unit × Writer :=
  offer packet.toBytes writer

/-- Send a payload to an address. One that is too long fails before the stream is touched. -/
def send (address : UInt8) (data : Bytes) (writer : Writer) : Except FrameError Unit × Writer :=
  match Packet.ofData address data with
  | .error e => (.error e, writer)
  | .ok packet => offer packet.toBytes writer

end Writer

end DeviceBus
