import DeviceBus.Medium.IoError

/-!
# Errors of the medium

What can go wrong while frames move on or off the bus.
-/

namespace DeviceBus

/-- An error of the medium. -/
inductive MediumError where
  /-- The bridge socket cannot be bound. -/
  | bind (path : String) (cause : IoError)
  /-- The bridge socket cannot be reached. -/
  | connect (path : String) (cause : IoError)
  /-- A bridge connection cannot be accepted. -/
  | accept (cause : IoError)
  /-- The bridge stream failed. -/
  | io (cause : IoError)
  /-- The socket path is too long. -/
  | pathTooLong (path : String) (length max : Nat)
  /-- The receiving side of a sink is gone. -/
  | closed
  /-- The medium is shut down. -/
  | shutdown
  deriving DecidableEq, Repr

/-- The name of the cause. -/
def MediumError.name : MediumError → String
  | .bind _ _ => "Bind"
  | .connect _ _ => "Connect"
  | .accept _ => "Accept"
  | .io _ => "Io"
  | .pathTooLong _ _ _ => "PathTooLong"
  | .closed => "Closed"
  | .shutdown => "Shutdown"

/-- The error in words. -/
def MediumError.message : MediumError → String
  | .bind path cause => "failed to bind to " ++ path ++ ": " ++ cause.text
  | .connect path cause => "failed to connect to " ++ path ++ ": " ++ cause.text
  | .accept cause => "failed to accept connection: " ++ cause.text
  | .io cause => "transport I/O error: " ++ cause.text
  | .pathTooLong path length max =>
    "socket path too long (" ++ toString length ++ " bytes, max " ++ toString max ++ "): " ++ path
  | .closed => "packet sink closed"
  | .shutdown => "transport shut down"

end DeviceBus
