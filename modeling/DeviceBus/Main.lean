import DeviceBus.Cli.Run

/-!
# The command line program

Reads the file that the command names, if it names one, runs the command and prints its outcome.
No sockets can be reached from here, so a command that needs one finds nobody at its path.
-/

namespace DeviceBus.Cli

/-- A failure to read a file. -/
def readFailure : IO.Error → IoError
  | .noFileOrDirectory _ _ _ => Surroundings.notFound
  | .permissionDenied _ _ _ => ⟨.permissionDenied, "Permission denied (os error 13)"⟩
  | failure => ⟨.other, failure.toString⟩

/-- The bytes of the file at a path. -/
def readFile (path : String) : BaseIO (Except IoError Bytes) := do
  match ← (IO.FS.readBinFile path).toBaseIO with
  | .ok content => return .ok content.toList
  | .error failure => return .error (readFailure failure)

/-- The file that a command line asks for, with its path. -/
def readRequested (arguments : List String) : BaseIO (Option (String × Except IoError Bytes)) := do
  match parse arguments with
  | .ok ⟨_, command⟩ =>
    match command.file? with
    | some path => return some (path, ← readFile path)
    | none => return none
  | .error _ => return none

/-- The bare surroundings, with one file that was read. -/
def surroundings (isTerminal : Bool) (file : Option (String × Except IoError Bytes)) :
    Surroundings :=
  { Surroundings.bare with
    isTerminal
    read := fun path =>
      match file with
      | some (known, content) =>
        if path = known then content else .error Surroundings.notFound
      | none => .error Surroundings.notFound }

end DeviceBus.Cli

/-- Run one command line. -/
def main (arguments : List String) : IO UInt32 := do
  let out ← IO.getStdout
  let file ← DeviceBus.Cli.readRequested arguments
  let outcome := DeviceBus.Cli.run (DeviceBus.Cli.surroundings (← out.isTty) file) arguments
  out.write ⟨outcome.output.toArray⟩
  out.flush
  IO.eprint outcome.errors
  return UInt32.ofNat outcome.code.toNat
