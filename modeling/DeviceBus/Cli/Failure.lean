import DeviceBus.BusError

/-!
# Exit codes

A command that fails says why and ends with a code for the kind of failure.
-/

namespace DeviceBus

/-- How a command ends. -/
inductive ExitCode where
  | success
  /-- The other side is not there. -/
  | failure
  /-- Wrong command line. -/
  | badCommandLine
  /-- The medium is gone. -/
  | mediumGone
  | permissionDenied
  /-- Malformed data. -/
  | dataInvalid
  /-- A value that cannot be used. -/
  | usage
  | timeout
  | internal
  deriving DecidableEq, Repr

/-- The number of an exit code. -/
def ExitCode.toNat : ExitCode → Nat
  | .success => 0
  | .failure => 1
  | .badCommandLine => 2
  | .mediumGone => 3
  | .permissionDenied => 50
  | .dataInvalid => 60
  | .usage => 64
  | .timeout => 124
  | .internal => 125

/-- Why a command failed. -/
structure CliFailure where
  code : ExitCode
  message : String
  deriving DecidableEq, Repr

namespace CliFailure

/-- A failure of a stream or a file. -/
def ofIo (context : String) (error : IoError) : CliFailure :=
  let code := match error.kind with
    | .permissionDenied => ExitCode.permissionDenied
    | .timedOut | .wouldBlock => ExitCode.timeout
    | .connectionRefused | .notFound => ExitCode.failure
    | _ => ExitCode.internal
  ⟨code, context ++ ": " ++ error.text⟩

/-- A failure of the medium. -/
def ofMedium (context : String) (error : MediumError) : CliFailure :=
  match error with
  | .bind _ cause | .connect _ cause | .accept cause | .io cause => ofIo context cause
  | .pathTooLong _ _ _ => ⟨.usage, context ++ ": " ++ error.message⟩
  | .closed | .shutdown => ⟨.mediumGone, context ++ ": " ++ error.message⟩

/-- A failure of the frame layer. -/
def ofFrame (context : String) (error : FrameError) : CliFailure :=
  match error with
  | .io cause => ofIo context cause
  | .connectionClosed => ⟨.failure, context ++ ": " ++ error.message⟩
  | _ => ⟨.dataInvalid, context ++ ": " ++ error.message⟩

/-- A failure of the bus. -/
def ofBus (context : String) (error : BusError) : CliFailure :=
  match error with
  | .frame cause => ofFrame context cause
  | .medium cause => ofMedium context cause
  | .timeout _ => ⟨.timeout, context ++ ": " ++ error.message⟩
  | .registryFull _ => ⟨.usage, context ++ ": " ++ error.message⟩
  | .notConnected | .nodeStopped => ⟨.failure, context ++ ": " ++ error.message⟩
  | .unknownDriver _ | .streamingUnavailable _ =>
    ⟨.internal, context ++ ": " ++ error.message⟩

end CliFailure

end DeviceBus
