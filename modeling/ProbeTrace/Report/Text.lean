import ProbeTrace.Json.Printer
import ProbeTrace.Session

/-!
# Reports as text

A report in lines: first the threads with their bundles, each level two spaces
further in, then the operations, and last the summary. Parts with nothing in
them are left out.
-/

set_option autoImplicit false

namespace ProbeTrace

namespace Value

mutual
/-- A value on one line. Payloads that are no documents are told by their size. -/
def line : Value → String
  | .int value => toString value.toInt
  | .uint value => toString value.toNat
  | .pointer value => Text.Hex.marked value.toNat
  | .text value => Text.Quoted.encode value
  | .bytes data => "<" ++ toString data.length ++ " bytes>"
  | .document doc => doc.compact
  | .malformed data => "<malformed, " ++ toString data.length ++ " bytes>"
  | .struct members => "\x7b" ++ ", ".intercalate (memberLines members) ++ "\x7d"
  | .transfer fault => "<" ++ fault.kind ++ ">"

/-- Named values, each with its name in front. -/
def memberLines : List (String × Value) → List String
  | [] => []
  | (name, value) :: rest => (name ++ "=" ++ line value) :: memberLines rest
end

end Value

namespace Hit

def text (hit : Hit) : String :=
  match Value.memberLines hit.args with
  | [] => hit.headline
  | args => hit.headline ++ " | " ++ " ".intercalate args

end Hit

namespace Report

/-- Lines of text, each ended by a line break. -/
def unlines (lines : List String) : String :=
  String.join (lines.map (· ++ "\n"))

def pad (level : Nat) : String :=
  String.ofList (List.replicate (2 * level) ' ')

def durationText (ns : Nat) : String :=
  humanSeconds (secondsOf ns)

/-! ## Bundles -/

/-- The first line of a span: how it ended, its root, its counter and how long it took. -/
def spanTitle (opening : Opening) (ending : Ending) : String :=
  "[" ++ ending.name ++ "] " ++ opening.root ++
    (match opening.counter with
      | some counter => " #" ++ toString counter.toInt
      | none => "") ++
    (match opening.duration? ending with
      | some ns => " " ++ durationText ns
      | none => "")

mutual
def nodeLines (level : Nat) : Node → List String
  | .leaf hit => [pad level ++ "- " ++ hit.text]
  | .span opening ending children =>
    (pad level ++ spanTitle opening ending) ::
      (pad (level + 1) ++ "+ " ++ opening.start.text) ::
      nodesLines (level + 1) children ++
      ending.hit?.toList.map fun hit => pad (level + 1) ++ "+ " ++ hit.text

def nodesLines (level : Nat) : List Node → List String
  | [] => []
  | node :: rest => nodeLines level node ++ nodesLines level rest
end

def bundleLines : Bundle → List String
  | .loose hits => "[Loose]" :: nodesLines 1 (hits.map Node.leaf)
  | .span opening ending children => nodeLines 0 (.span opening ending children)

def threadLines (thread : ThreadReport) : List String :=
  ("=== thread " ++ toString thread.tid ++ " (" ++ toString thread.hits ++ " hits, " ++
      toString thread.reordered ++ " reordered, " ++ toString thread.evicted ++ " evicted) ===") ::
    thread.bundles.flatMap bundleLines ++ [""]

/-! ## Operations -/

def operationLine (operation : Operation) : String :=
  "op " ++ Text.Hex.marked operation.handle.toNat ++ ": " ++
    toString operation.hits.length ++ " hits (" ++
    ", ".intercalate (operation.hits.map Hit.probe) ++ ") " ++
    durationText (operation.lastNs - operation.firstNs)

def operationLines (operations : List Operation) : List String :=
  if operations.isEmpty then []
  else "=== operations ===" :: operations.map operationLine ++ [""]

/-! ## Summary -/

/-- A counter under a title, if anything was counted. -/
def counterText (title : String) (counter : Counter) : String :=
  if counter.isEmpty then "" else title ++ ": " ++ counter.text

def timerLines (title : String) (timers : Keyed String IntervalTimer) : List String :=
  if timers.isEmpty then []
  else (title ++ ":") :: timers.map fun entry => " - " ++ entry.1 ++ ": " ++ entry.2.text

def summaryText (summary : Summary) : String :=
  unlines
      (["=== summary ===", "hits: " ++ toString summary.hits,
        "decode failures: " ++ toString summary.decodeFailures,
        "dropped: " ++ toString summary.droppedTotal ++ " (" ++
          Decimal.fixed 2 summary.dropPercent ++ "%)"] ++
        summary.dropped.map fun entry => " - " ++ entry.1 ++ ": " ++ toString entry.2) ++
    counterText "probes" summary.probes ++ counterText "commands" summary.comms ++
    counterText "record sizes" summary.sizes ++ counterText "payload outcomes" summary.errors ++
    unlines (timerLines "intervals" summary.intervals ++
      timerLines "start/stop" summary.startStop)

def text (report : Report) : String :=
  unlines (report.threads.flatMap threadLines ++ operationLines report.operations) ++
    summaryText report.summary

end Report
end ProbeTrace
