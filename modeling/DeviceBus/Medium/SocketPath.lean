import DeviceBus.Medium.Error
import DeviceBus.Text.Utf8

/-!
# Bridge socket paths

What a path must be before a bridge socket is bound there: short enough for the platform, and
either free or taken by a stale socket.
-/

namespace DeviceBus

/-- What stands at a path. -/
inductive PathKind where
  /-- A socket, possibly stale. -/
  | socket
  /-- Anything else. -/
  | other
  deriving DecidableEq, Repr

namespace SocketPath

/-- A socket path has fewer bytes than this. -/
def maxLength : Nat := 108

/-- The access rights of a bridge socket: its owner may read and write. -/
def defaultMode : Nat := 0o600

/-- Check a path before a socket is bound at it, given what looking it up says. -/
def check (path : String) (found : Except IoError PathKind) : Except MediumError Unit :=
  let length := (Text.utf8 path.toList).length
  if maxLength ≤ length then .error (.pathTooLong path length maxLength)
  else
    match found with
    | .ok .socket => .ok ()
    | .ok .other => .error (.bind path ⟨.alreadyExists, "existing path is not a unix socket"⟩)
    | .error cause => if cause.kind = .notFound then .ok () else .error (.bind path cause)

end SocketPath

end DeviceBus
