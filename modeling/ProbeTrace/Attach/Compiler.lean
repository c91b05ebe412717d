import ProbeTrace.Attach.Backend
import ProbeTrace.Bytes
import ProbeTrace.FileTree
import ProbeTrace.Text.Utf8

/-!
# The compiler

A program is compiled by a command that is given its source as a file. What the
command says when it fails is the message of the error.
-/

set_option autoImplicit false

namespace ProbeTrace

/-- The command that compiles programs, and more places where it may look for headers. -/
structure Compiler where
  command : String
  includeDirs : List String
  deriving DecidableEq, Repr

/-- What came of running the command. -/
inductive CompilerReply where
  /-- It could not be started. -/
  | notStarted (fault : FileFault)
  /-- It failed and left a message. -/
  | failed (message : Bytes)
  | succeeded
  deriving Repr

namespace Compiler

def standardCommand : String := "clang"

/-- Pages of a perf buffer on each processor. -/
def perfPages : Nat := 64

def sourceFile (dir : String) : String := dir ++ "/usdtrace.bpf.c"

def objectFile (dir : String) : String := dir ++ "/usdtrace.bpf.o"

/-- The arguments of the command when it works in a directory. -/
def arguments (compiler : Compiler) (dir : String) : List String :=
  ["-g", "-O2", "-target", "bpf", "-D__TARGET_ARCH_x86", "-I/usr/include/x86_64-linux-gnu"] ++
    compiler.includeDirs.flatMap (fun path => ["-I", path]) ++
    ["-c", sourceFile dir, "-o", objectFile dir]

/-- A word that holds the character which ends words cannot be handed over. -/
def canRun (compiler : Compiler) : Bool :=
  (compiler.command :: compiler.includeDirs).all fun word => !word.toList.contains '\x00'

def brokenWord : String := "nul byte found in provided data"

/-- What a call to compile gets if running the command comes to the given end. -/
def reply (compiler : Compiler) (outcome : CompilerReply) : Reply :=
  if compiler.canRun then
    match outcome with
    | .notStarted fault => .refused (.system fault.message)
    | .failed message => .refused (.compile (Text.Utf8.decodeLenient message))
    | .succeeded => .done
  else .refused (.system brokenWord)

end Compiler
end ProbeTrace
