import DeviceBus.Frame.Reader
import DeviceBus.Frame.Writer

/-!
# A joined pair of streams

Two stream ends in one process: what is written on the left is read on the right. Shutting the
pair down ends both directions, but bytes on their way can still be read.
-/

namespace DeviceBus

/-- The pair: the bytes on their way, the reader's incomplete frame, and whether it is shut
down. -/
structure SocketPair where
  inFlight : Bytes
  buffer : Bytes
  isShutDown : Bool
  deriving DecidableEq, Repr

namespace SocketPair

/-- A fresh pair. -/
def empty : SocketPair := ⟨[], [], false⟩

/-- A time limit for reads or writes must not be zero. -/
def checkTimeout (timeout : Option Nat) : Except FrameError Unit :=
  if timeout = some 0 then
    .error (.io ⟨.invalidInput, "cannot set a 0 duration timeout"⟩)
  else .ok ()

/-- What the left end does with its next write. -/
def writeScript (pair : SocketPair) : List WriteStep :=
  if pair.isShutDown then [.failure ⟨.brokenPipe, "Broken pipe (os error 32)"⟩] else []

/-- Run a writer's call on the left end. -/
def write (pair : SocketPair) (call : Writer → Except FrameError Unit × Writer) :
    Except FrameError Unit × SocketPair :=
  let done := call (.ofScript pair.writeScript)
  (done.1, { pair with inFlight := pair.inFlight ++ done.2.written })

/-- What the right end has for its next read. A read that would wait fails. -/
def readSteps (pair : SocketPair) : List ReadStep :=
  let pending := if pair.inFlight.isEmpty then [] else [.data pair.inFlight]
  if pair.isShutDown then pending
  else pending ++ [.failure ⟨.wouldBlock, "Resource temporarily unavailable (os error 11)"⟩]

/-- The bytes of the steps that a read has left. -/
def unread : List ReadStep → Bytes
  | .data bytes :: rest => bytes ++ unread rest
  | .failure _ :: rest => unread rest
  | [] => []

/-- Read a packet on the right end. -/
def nextPacket (pair : SocketPair) : Except FrameError Packet × SocketPair :=
  let done := Reader.nextPacket ⟨pair.buffer, pair.readSteps⟩
  (done.1, { pair with inFlight := unread done.2.source, buffer := done.2.buffer })

/-- End both directions. -/
def shutDown (pair : SocketPair) : SocketPair := { pair with isShutDown := true }

end SocketPair

end DeviceBus
