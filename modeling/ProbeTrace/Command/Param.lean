/-!
# Parameters

What can be set on the command line. One parameter is told by its place, all
others by a name after two dashes and some also by a letter after one.
-/

set_option autoImplicit false

namespace ProbeTrace

inductive Param where
  | pid
  | probes
  | provider
  | sample
  | chunkSize
  | chunkCount
  | output
  | format
  | correlate
  | closeOn
  | counterArg
  | staleAfterMs
  | maxHitsPerThread
  | programBudget
  | payloads
  | dumpSource
  | duration
  | clang
  | bpfInclude
  | verbose
  | help
  | version
  deriving DecidableEq, Repr

/-- How often a parameter may be given, and with what. -/
inductive ParamKind where
  /-- A value, at most once. -/
  | single
  /-- A value each time. -/
  | repeated
  /-- No value, at most once. -/
  | switch
  /-- No value, and each time counts. -/
  | tally
  /-- No value; the program answers instead of running. -/
  | question
  deriving DecidableEq, Repr

namespace Param

def all : List Param :=
  [.pid, .probes, .provider, .sample, .chunkSize, .chunkCount, .output, .format, .correlate,
    .closeOn, .counterArg, .staleAfterMs, .maxHitsPerThread, .programBudget, .payloads,
    .dumpSource, .duration, .clang, .bpfInclude, .verbose, .help, .version]

def kind : Param → ParamKind
  | .closeOn | .bpfInclude => .repeated
  | .dumpSource => .switch
  | .verbose => .tally
  | .help | .version => .question
  | _ => .single

def takesValue (param : Param) : Bool :=
  param.kind = .single || param.kind = .repeated

/-- The name of a parameter; the one told by its place is named in explanations only. -/
def name : Param → String
  | .pid => "pid"
  | .probes => "probes"
  | .provider => "provider"
  | .sample => "sample"
  | .chunkSize => "chunk-size"
  | .chunkCount => "chunk-count"
  | .output => "output"
  | .format => "format"
  | .correlate => "correlate"
  | .closeOn => "close-on"
  | .counterArg => "counter-arg"
  | .staleAfterMs => "stale-after-ms"
  | .maxHitsPerThread => "max-hits-per-thread"
  | .programBudget => "program-budget"
  | .payloads => "payloads"
  | .dumpSource => "dump-source"
  | .duration => "duration"
  | .clang => "clang"
  | .bpfInclude => "bpf-include"
  | .verbose => "verbose"
  | .help => "help"
  | .version => "version"

def letter? : Param → Option Char
  | .probes => some 'p'
  | .sample => some 's'
  | .chunkSize => some 'c'
  | .chunkCount => some 'm'
  | .output => some 'f'
  | .duration => some 'd'
  | .verbose => some 'v'
  | .help => some 'h'
  | .version => some 'V'
  | _ => none

/-- The parameters that are told by a name. -/
def options : List Param :=
  all.filter (· ≠ .pid)

/-- Names are complete: no part of one stands for it. -/
def ofName? (text : String) : Option Param :=
  options.find? fun param => param.name = text

def ofLetter? (c : Char) : Option Param :=
  options.find? fun param => param.letter? = some c

end Param
end ProbeTrace
