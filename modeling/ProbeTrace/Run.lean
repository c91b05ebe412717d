import ProbeTrace.Attach.Attach
import ProbeTrace.Attach.Tracing
import ProbeTrace.Command.Settings
import ProbeTrace.FileTree
import ProbeTrace.Json.Message

/-!
# Runs

What a run does with its settings, up to the point where all probes are attached.
The probe table is read first; either its programs are shown then, or they are
attached to the process, if that exists and if enough memory can be locked.
-/

set_option autoImplicit false

namespace ProbeTrace

structure Limit where
  resource : Nat
  soft : Nat
  hard : Nat
  deriving DecidableEq, Repr

/-- What programs need of locked memory. -/
def Limit.lockedMemory : Limit :=
  ⟨8, 128 * Nat.pow 2 20, 128 * Nat.pow 2 20⟩

/-- What a run finds on the machine. -/
structure Host where
  /-- The contents of a file, or why it cannot be read. -/
  file : String → Except FileFault Bytes
  isRunning : Nat → Bool
  /-- Whether a limit may be set. -/
  allows : Limit → Bool
  backend : Compiler → Backend

inductive RunError where
  | unreadableTable (path : String) (fault : FileFault)
  | invalidTable (path : String) (data : Bytes) (error : TableError)
  | emptyTable (path : String)
  | notRunning (pid : Nat)
  | limitRefused (limit : Limit)
  | attachFailed (pid : Nat) (error : AttachError)
  deriving Repr

/-- The reason for an invalid table; a fault of its form is told with its place. -/
def TableError.message (data : Bytes) : TableError → String
  | .document fault => fault.message data
  | .probe error => error.message

namespace RunError

def message : RunError → String
  | .unreadableTable path _ => s!"Failed to read probe table {path}"
  | .invalidTable path _ _ => s!"Invalid probe table {path}"
  | .emptyTable path => s!"Probe table {path} has no probes"
  | .notRunning pid => s!"Process {pid} is not running"
  | .limitRefused limit =>
    let mebibytes := limit.hard / Nat.pow 2 20
    s!"Failed to increase RLIMIT_MEMLOCK to {mebibytes} MiB. This is required for BPF programs."
  | .attachFailed pid _ => s!"Failed to attach to pid {pid}"

def cause? : RunError → Option String
  | .unreadableTable _ fault => some fault.message
  | .invalidTable _ data error => some (error.message data)
  | .attachFailed _ error => some error.message
  | .emptyTable _ | .notRunning _ | .limitRefused _ => none

/-- Every line of a text moved to the right. -/
def indented (text : String) : String :=
  "\n".intercalate ((text.splitOn "\n").map fun line => "    " ++ line)

/-- An error as the program leaves it, with its cause below. -/
def report (error : RunError) : String :=
  match error.cause? with
  | some cause => s!"Error: {error.message}\n\nCaused by:\n{indented cause}\n"
  | none => s!"Error: {error.message}\n"

end RunError

/-- What a run has done. -/
structure Run where
  /-- What it printed. -/
  output : String
  /-- The limits it tried to set. -/
  limits : List Limit
  /-- How attaching went, if it came to that. -/
  attachment : Option Attachment
  /-- The tracing that begins when all probes are attached. -/
  tracing : Option (Tracing Session)
  error : Option RunError

namespace Run

def failed (error : RunError) : Run :=
  ⟨"", [], none, none, some error⟩

def text (host : Host) (path : String) : Except FileFault Bytes := do
  if path.toList.contains '\x00' then .error .brokenName
  let data ← host.file path
  if (Text.Utf8.decode? data).isNone then .error .notText
  return data

def table (host : Host) (settings : Settings) : Except RunError ProbeTable := do
  let path := settings.probes
  match text host path with
  | .error fault => .error (.unreadableTable path fault)
  | .ok data =>
    match ProbeTable.read data settings.overrides with
    | .error error => .error (.invalidTable path data error)
    | .ok table =>
      if table.probes.isEmpty then .error (.emptyTable path)
      return table

/-- The programs of a table one below the other, each under its number. -/
def listing (specs : List ProbeSpec) (budget : Nat) : String :=
  String.join ((Plan.programs specs budget).mapIdx fun i group =>
    s!"// program {i}\n" ++ Program.source ⟨group⟩ ++ "\n")

/-- The provider of probes that name none: that of the settings, then that of the table. -/
def provider (settings : Settings) (table : ProbeTable) : String :=
  (settings.provider.or table.provider).getD AttachTarget.standardProvider

def attach (host : Host) (settings : Settings) (table : ProbeTable) : Run :=
  let pid := settings.pid.toNat
  if !host.isRunning pid then failed (.notRunning pid)
  else if !host.allows Limit.lockedMemory then
    { failed (.limitRefused Limit.lockedMemory) with limits := [Limit.lockedMemory] }
  else
    let (result, state) := Attachment.run (host.backend settings.compiler)
      ⟨pid, provider settings table⟩ settings.programBudget table.probes
    match result with
    | .error error =>
      ⟨"", [Limit.lockedMemory], some state, none, some (.attachFailed pid error)⟩
    | .ok () =>
      let tracing := Tracing.begin state.running (Session.new settings.session)
      ⟨"", [Limit.lockedMemory], some state, some tracing, none⟩

def ofSettings (host : Host) (settings : Settings) : Run :=
  match table host settings with
  | .error error => failed error
  | .ok table =>
    if settings.dumpSource then
      ⟨listing table.probes settings.programBudget, [], none, none, none⟩
    else attach host settings table

end Run
end ProbeTrace
