import ProbeTrace.Attach.Backend
import ProbeTrace.Notice

/-!
# Starting programs

A program is started in fixed steps: it is compiled, its probes are enabled, it
is loaded, and then the stream of each probe is opened. The first call that fails
ends the start, and a program that was loaded by then is released again.
-/

set_option autoImplicit false

namespace ProbeTrace

/-- What has happened while programs are attached. -/
structure Attachment where
  /-- All calls so far with their replies. -/
  exchanges : List Exchange
  notices : List Notice
  /-- The programs that are running, in the order in which they were started. -/
  running : List Program

/-- Why a program could not be started. -/
inductive StartFault where
  | refused (error : AttachError)
  | panicked
  deriving DecidableEq, Repr

namespace StartFault

/-- A worker that is gone is an error of its own. -/
def error : StartFault → AttachError
  | .refused error => error
  | .panicked => .workerLost

/-- What a program is too large for, if that is the reason. -/
def oversize? : StartFault → Option String
  | .refused (.limitExceeded message) => some message
  | _ => none

end StartFault

/-- Where programs are attached: the process, and the provider of probes that name none. -/
structure AttachTarget where
  pid : Nat
  provider : String
  deriving DecidableEq, Repr

/-- The provider of probes unless one is named anywhere. -/
def AttachTarget.standardProvider : String := "mongodb"

abbrev Starting := ExceptT StartFault (StateM Attachment)

namespace Attachment

def empty : Attachment :=
  ⟨[], [], []⟩

def tell (notice : Notice) : Starting Unit :=
  modify fun (state : Attachment) => { state with notices := state.notices ++ [notice] }

def exchange (backend : Backend) (call : Call) : Starting Reply := do
  let state : Attachment ← get
  let reply := backend state.exchanges call
  set { state with exchanges := state.exchanges ++ [(⟨call, reply⟩ : Exchange)] }
  return reply

/-- Makes a call that has to succeed. -/
def ask (backend : Backend) (call : Call) : Starting Unit := do
  match ← exchange backend call with
  | .done => pure ()
  | .refused error => throw (.refused error)
  | .panicked => throw .panicked

/-- Makes a call whose reply does not matter. -/
def notify (backend : Backend) (call : Call) : Starting Unit := do
  let _ ← exchange backend call

def openStream (backend : Backend) (spec : ProbeSpec) : Starting Unit := do
  match Program.chunkStore? spec with
  | some store => ask backend (.chunks store)
  | none => pure ()
  ask backend (.stream (Program.Names.channel spec.name))

/-- Opens the streams of a loaded program, which is released if one fails. A
worker that is brought down releases nothing. -/
def openStreams (backend : Backend) (program : Program) : Starting Unit := do
  try program.probes.forM (openStream backend)
  catch fault =>
    match fault with
    | .refused _ => notify backend (.cleanup program)
    | .panicked => pure ()
    throw fault

def enableProbe (backend : Backend) (target : AttachTarget) (spec : ProbeSpec) : Starting Unit :=
  ask backend
    (.enable (spec.provider.getD target.provider) spec.name (Program.Names.entry spec.name))

def start (backend : Backend) (target : AttachTarget) (program : Program) : Starting Unit := do
  ask backend (.compile program)
  program.probes.forM (enableProbe backend target)
  ask backend (.load program target.pid)
  openStreams backend program
  tell (.loaded program.probeNames)
  modify fun (state : Attachment) => { state with running := state.running ++ [program] }

end Attachment
end ProbeTrace
