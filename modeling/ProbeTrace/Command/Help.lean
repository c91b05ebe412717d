import ProbeTrace.Command.Line

/-!
# Help

The text that explains the command line: what the program is for, how it is
called, and every parameter with its standard value and its choices.
-/

set_option autoImplicit false

namespace ProbeTrace

namespace Param

def about : Param → String
  | .pid => "Process to attach to"
  | .probes => "JSON probe table"
  | .provider => "USDT provider for probes that don't name one"
  | .sample => "Fraction of probe firings to record, in (0, 1]"
  | .chunkSize => "Long-string chunk size in bytes"
  | .chunkCount => "Number of long-string chunks"
  | .output => "Write the report to this file instead of stdout"
  | .format => ""
  | .correlate => "Group hits into operations by this argument (e.g. opCtx)"
  | .closeOn => "Probes that complete a correlated operation"
  | .counterArg => "Argument that identifies a start/end span"
  | .staleAfterMs => "Expire spans open for longer than this many milliseconds"
  | .maxHitsPerThread => "Keep at most this many hits per thread (0 = unbounded)"
  | .programBudget => "Instruction budget per generated program"
  | .payloads => "Decode long-string payloads as documents of this format"
  | .dumpSource => "Print the generated programs and exit"
  | .duration => "Trace for this many seconds (0 = until Ctrl-C)"
  | .clang => "clang binary"
  | .bpfInclude => "Extra include directory for clang"
  | .verbose => "Increase verbosity (-v info, -vv debug, -vvv trace)"
  | .help => "Print help"
  | .version => "Print version"

def standard? : Param → Option String
  | .format => some "text"
  | .counterArg => some Settings.standard.counterArg
  | .staleAfterMs => some (toString Settings.standard.staleAfterMs)
  | .maxHitsPerThread => some (toString Settings.standard.maxHitsPerThread)
  | .programBudget => some (toString Settings.standard.programBudget)
  | .duration => some (toString Settings.standard.duration)
  | .clang => some Settings.standard.compiler.command
  | _ => none

def choices : Param → List String
  | .format => Settings.formats.map Prod.fst
  | .payloads => Settings.payloadFormats.map Prod.fst
  | _ => []

/-- What stands for the value of a parameter: its name in capitals. -/
def placeholder (param : Param) : String :=
  let word := param.name.map fun c => if c = '-' then '_' else c.toUpper
  "<" ++ word ++ ">"

/-- A parameter as it is written on the command line. -/
def pattern (param : Param) : String :=
  if param = .pid then param.placeholder
  else
    "--" ++ param.name ++
      match param.kind with
      | .single | .repeated => " " ++ param.placeholder
      | .tally => "..."
      | .switch | .question => ""

end Param

namespace Help

def programName : String := "usdtrace"

def programVersion : String := "0.1.0"

def purpose : String :=
  "Trace USDT probes of a running process and rebuild per-request bundles"

def explanation (param : Param) : String :=
  let about := if param.about.isEmpty then [] else [param.about]
  let standard := param.standard?.toList.map fun text => s!"[default: {text}]"
  let choices :=
    if param.choices.isEmpty then []
    else ["[possible values: " ++ ", ".intercalate param.choices ++ "]"]
  " ".intercalate (about ++ standard ++ choices)

def option (param : Param) : String :=
  let letter := match param.letter? with
    | some c => String.ofList ['-', c, ',', ' ']
    | none => "    "
  "  " ++ letter ++ param.pattern ++ "\n          " ++ explanation param ++ "\n"

def usage : String :=
  s!"Usage: {programName} [OPTIONS] {Param.pattern .probes} {Param.pattern .pid}\n"

def text : String :=
  purpose ++ "\n\n" ++ usage ++ "\nArguments:\n  " ++ Param.pattern .pid ++ "  " ++
    Param.about .pid ++ "\n\nOptions:\n" ++ String.join (Param.options.map option)

def version : String := s!"{programName} {programVersion}\n"

end Help

namespace UsageError

def message : UsageError → String
  | .unknownArgument text => s!"unexpected argument '{text}' found"
  | .unneededValue param => s!"unexpected value for '{param.pattern}' found; no more were expected"
  | .missingValue param => s!"a value is required for '{param.pattern}' but none was supplied"
  | .repeated param => s!"the argument '{param.pattern}' cannot be used multiple times"
  | .emptyPath param => s!"a value is required for '{param.pattern}' but none was supplied"
  | .notAChoice param text => s!"invalid value '{text}' for '{param.pattern}'"
  | .notANumber param text => s!"invalid value '{text}' for '{param.pattern}'"
  | .unset param => s!"the following required argument was not provided: {param.pattern}"

end UsageError
end ProbeTrace
