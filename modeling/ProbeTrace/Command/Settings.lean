import ProbeTrace.Attach.Compiler
import ProbeTrace.Command.Param
import ProbeTrace.Decimal.Whole
import ProbeTrace.Payload
import ProbeTrace.Probe.Table
import ProbeTrace.Program.Plan
import ProbeTrace.Report.Render
import ProbeTrace.Session

/-!
# Settings

What a command line sets, and how the text of a value is read. A number that is
not one, or out of range, is a bad value; so is a word that is not one of the
choices. A path is never empty.
-/

set_option autoImplicit false

namespace ProbeTrace

inductive UsageError where
  | unknownArgument (text : String)
  /-- A value for a parameter that takes none. -/
  | unneededValue (param : Param)
  | missingValue (param : Param)
  | repeated (param : Param)
  | emptyPath (param : Param)
  | notAChoice (param : Param) (text : String)
  | notANumber (param : Param) (text : String)
  /-- A parameter that has to be set is not. -/
  | unset (param : Param)
  deriving DecidableEq, Repr

structure Settings where
  verbosity : Nat
  pid : UInt32
  /-- The path of the probe table. -/
  probes : String
  provider : Option String
  /-- The fraction of hits to record, as the bits of a double. -/
  sampling : Option UInt64
  chunkSize : Option UInt32
  chunkCount : Option UInt32
  output : Option String
  format : ReportFormat
  correlate : Option String
  closeOn : List String
  counterArg : String
  staleAfterMs : Nat
  maxHitsPerThread : Nat
  programBudget : Nat
  payloads : Option PayloadFormat
  /-- Show the programs instead of running them. -/
  dumpSource : Bool
  /-- Seconds to trace; zero is no limit. -/
  duration : Nat
  compiler : Compiler
  deriving Repr

namespace Settings

/-- What is set unless the command line says otherwise. -/
def standard : Settings where
  verbosity := 0
  pid := 0
  probes := ""
  provider := none
  sampling := none
  chunkSize := none
  chunkCount := none
  output := none
  format := .text
  correlate := none
  closeOn := []
  counterArg := SpanOptions.standardCounterArg
  staleAfterMs := 0
  maxHitsPerThread := 0
  programBudget := Plan.defaultBudget
  payloads := none
  dumpSource := false
  duration := 0
  compiler := ⟨Compiler.standardCommand, []⟩

def overrides (settings : Settings) : Overrides :=
  ⟨settings.sampling.map Float.ofBits, settings.chunkSize, settings.chunkCount⟩

def spans (settings : Settings) : SpanOptions :=
  ⟨settings.counterArg, SpanOptions.staleAfterMs settings.staleAfterMs⟩

def session (settings : Settings) : SessionOptions where
  correlate := settings.correlate
  closeOn := settings.closeOn
  spans := settings.spans
  maxHitsPerThread := settings.maxHitsPerThread

/-! ## Values -/

def number {α : Type} (read : String → Option α) (param : Param) (text : String) :
    Except UsageError α :=
  match read text with
  | some value => .ok value
  | none => .error (.notANumber param text)

def path (param : Param) (text : String) : Except UsageError String :=
  if text.isEmpty then .error (.emptyPath param) else .ok text

def choice {α : Type} (choices : List (String × α)) (param : Param) (text : String) :
    Except UsageError α :=
  match choices.lookup text with
  | some value => .ok value
  | none => .error (.notAChoice param text)

def formats : List (String × ReportFormat) :=
  [("text", .text), ("json", .json)]

def payloadFormats : List (String × PayloadFormat) :=
  [("json", .json), ("bson", .bson)]

def assign (settings : Settings) (param : Param) (text : String) : Except UsageError Settings := do
  match param with
  | .pid => return { settings with pid := ← number Decimal.Reading.word32? param text }
  | .probes => return { settings with probes := ← path param text }
  | .provider => return { settings with provider := some text }
  | .sample => return { settings with sampling := some (← number Decimal.Reading.bits? param text) }
  | .chunkSize =>
    return { settings with chunkSize := some (← number Decimal.Reading.word32? param text) }
  | .chunkCount =>
    return { settings with chunkCount := some (← number Decimal.Reading.word32? param text) }
  | .output => return { settings with output := some (← path param text) }
  | .format => return { settings with format := ← choice formats param text }
  | .correlate => return { settings with correlate := some text }
  | .closeOn => return { settings with closeOn := settings.closeOn ++ [text] }
  | .counterArg => return { settings with counterArg := text }
  | .staleAfterMs =>
    return { settings with staleAfterMs := ← number Decimal.Reading.word64? param text }
  | .maxHitsPerThread =>
    return { settings with maxHitsPerThread := ← number Decimal.Reading.word64? param text }
  | .programBudget =>
    return { settings with programBudget := ← number Decimal.Reading.word64? param text }
  | .payloads => return { settings with payloads := some (← choice payloadFormats param text) }
  | .duration => return { settings with duration := ← number Decimal.Reading.word64? param text }
  | .clang =>
    return { settings with compiler := { settings.compiler with command := ← path param text } }
  | .bpfInclude =>
    return { settings with compiler := { settings.compiler with
      includeDirs := settings.compiler.includeDirs ++ [← path param text] } }
  | .dumpSource | .verbose | .help | .version => .error (.unneededValue param)

/-- The most that is counted of a parameter. -/
def tallyLimit : Nat := 255

def mark (settings : Settings) : Param → Settings
  | .dumpSource => { settings with dumpSource := true }
  | .verbose => { settings with verbosity := min (settings.verbosity + 1) tallyLimit }
  | _ => settings

end Settings
end ProbeTrace
