/-!
# Failures of a byte stream

A stream reports what went wrong as a kind and a text. Only the kind decides what a caller does
next.
-/

namespace DeviceBus

/-- The kinds of stream failure. -/
inductive IoErrorKind where
  | interrupted
  | wouldBlock
  | timedOut
  | permissionDenied
  | notFound
  | connectionRefused
  | brokenPipe
  | alreadyExists
  | invalidInput
  | other
  deriving DecidableEq, Repr, Inhabited

/-- The name of a kind. -/
def IoErrorKind.name : IoErrorKind → String
  | .interrupted => "Interrupted"
  | .wouldBlock => "WouldBlock"
  | .timedOut => "TimedOut"
  | .permissionDenied => "PermissionDenied"
  | .notFound => "NotFound"
  | .connectionRefused => "ConnectionRefused"
  | .brokenPipe => "BrokenPipe"
  | .alreadyExists => "AlreadyExists"
  | .invalidInput => "InvalidInput"
  | .other => "Other"

/-- A stream failure. -/
structure IoError where
  kind : IoErrorKind
  text : String
  deriving DecidableEq, Repr, Inhabited

end DeviceBus
