import ProbeTrace.Record.Decoder
import ProbeTrace.Text.Quoted

/-!
# Notices

What the program tells about its own work while it goes on, and how urgent it is.
-/

set_option autoImplicit false

namespace ProbeTrace

inductive Level where
  | error
  | warn
  | info
  | debug
  | trace
  deriving DecidableEq, Repr

namespace Level

def name : Level → String
  | .error => "ERROR"
  | .warn => "WARN"
  | .info => "INFO"
  | .debug => "DEBUG"
  | .trace => "TRACE"

end Level

inductive Notice where
  /-- A span was open for too long. -/
  | spanExpired (root : String)
  | operationComplete (handle : UInt64) (hits : Nat)
  | undecodable (probe : String) (error : DecodeError)
  | eventsLost (probe : String) (cpu : Int) (count : Nat)
  /-- A group of probes makes too large a program and is cut in two. -/
  | splitting (probes : Nat) (reason : String)
  | loaded (probes : List String)
  | pollingFailed (message : String)
  | workerPanicked
  deriving Repr

namespace Notice

def level : Notice → Level
  | .spanExpired _ | .operationComplete _ _ | .undecodable _ _ => .debug
  | .eventsLost _ _ _ | .splitting _ _ => .warn
  | .loaded _ => .info
  | .pollingFailed _ | .workerPanicked => .error

def message : Notice → String
  | .spanExpired root => s!"Expiring span Some({Text.Quoted.encode root})"
  | .operationComplete handle hits =>
    s!"Operation {Text.Hex.marked handle.toNat} complete with {hits} hits"
  | .undecodable probe error => s!"{probe}: failed to decode event: {error.message}"
  | .eventsLost probe cpu count => s!"Lost {count} events for {probe} on cpu {cpu}"
  | .splitting probes reason =>
    s!"Program with {probes} probes is too large ({reason}), splitting it"
  | .loaded probes => "Loaded program with probes: " ++ ", ".intercalate probes
  | .pollingFailed message => s!"Polling probe events failed: {message}"
  | .workerPanicked => "probe worker panicked"

end Notice
end ProbeTrace
