import ProbeTrace.Command.Help
import ProbeTrace.Run

/-!
# Executions

What the program prints for its arguments, and with which code it ends.
-/

set_option autoImplicit false

namespace ProbeTrace

structure Execution where
  code : Nat
  output : String
  errors : String
  deriving DecidableEq, Repr

namespace Execution

def misused (error : UsageError) : Execution :=
  ⟨2, "", s!"error: {error.message}\n\n{Help.usage}\nFor more information, try '--help'.\n"⟩

def ofRun (run : Run) : Execution :=
  match run.error with
  | some error => ⟨1, run.output, error.report⟩
  | none => ⟨0, run.output, ""⟩

/-- Executes the program with arguments, of which its own name is none. -/
def ofArguments (host : Host) (arguments : List String) : Execution :=
  match CommandLine.read arguments with
  | .error .help => ⟨0, Help.text, ""⟩
  | .error .version => ⟨0, Help.version, ""⟩
  | .error (.misuse error) => misused error
  | .ok settings => ofRun (Run.ofSettings host settings)

end Execution
end ProbeTrace
