import ProbeTrace.Command.Execution

/-!
# The program

Reads the probe table, looks for the process and prints what the execution says.
Limits are out of its reach, and so is everything that comes after them.
-/

set_option autoImplicit false

namespace ProbeTrace.Machine

def faultOf : IO.Error → FileFault
  | .noFileOrDirectory _ _ _ => .missing
  | .permissionDenied _ _ _ => .denied
  | .inappropriateType _ 20 _ => .notDirectory
  | .inappropriateType _ _ _ => .isDirectory
  | .invalidArgument _ 36 _ => .nameTooLong
  | error => .other (toString error)

def fileReply (path : String) : IO (Except FileFault Bytes) := do
  try
    let data ← IO.FS.readBinFile path
    return .ok data.toList
  catch error => return .error (faultOf error)

/-- A file that is there as long as a process runs. -/
def processFile (pid : Nat) : String :=
  s!"/proc/{pid}/comm"

/-- A machine on which nothing is found and nothing may be done. -/
def bare : Host where
  file _ := .error .missing
  isRunning _ := false
  allows _ := false
  backend _ _ _ := .panicked

/-- What a run with the given settings will ask for. -/
def survey (settings : Settings) : IO Host := do
  let file ← fileReply settings.probes
  let process ← fileReply (processFile settings.pid.toNat)
  return { bare with file := fun _ => file, isRunning := fun _ => process.toOption.isSome }

def execute (arguments : List String) : IO Execution := do
  match CommandLine.read arguments with
  | .error _ => return Execution.ofArguments bare arguments
  | .ok settings => return Execution.ofArguments (← survey settings) arguments

end ProbeTrace.Machine

def main (arguments : List String) : IO UInt32 := do
  let execution ← ProbeTrace.Machine.execute arguments
  IO.print execution.output
  IO.eprint execution.errors
  return UInt32.ofNat execution.code
