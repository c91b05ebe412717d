import ProbeTrace.Json.Value
import ProbeTrace.Session

/-!
# Reports as documents

The parts of a report as documents: records are objects with their members in a
fixed order, and what has no value is null.
-/

set_option autoImplicit false

namespace ProbeTrace

namespace Json

def natural (n : Nat) : Json :=
  .integer n

/-- Null in place of nothing. -/
def ofOption {α : Type} (write : α → Json) : Option α → Json
  | some a => write a
  | none => .null

/-- A map as an object, its keys in order. -/
def ofKeyed {α : Type} (write : α → Json) (map : Keyed String α) : Json :=
  .object (map.map fun entry => (entry.1, write entry.2))

def ofBytes (data : Bytes) : Json :=
  .array (data.map fun b => natural b.toNat)

/-- Neither infinities nor undefined values have a place in a document. -/
def ofFloat (x : Float) : Json :=
  if x.isFinite then .fraction x else .null

end Json

def TransferFault.document : TransferFault → Json
  | .badChunkIndex => .string "BadChunkIndex"
  | .badProbeRead => .string "BadProbeRead"
  | .lengthMismatch => .string "LengthMismatch"
  | .unknown code => .object [("Unknown", .integer code)]

namespace Value

/-- Something with its kind in front. -/
def labelled (kind : String) (content : Json) : Json :=
  .object [("kind", .string kind), ("value", content)]

mutual
def content : Value → Json
  | .int value => .integer value.toInt
  | .uint value | .pointer value => .natural value.toNat
  | .text value => .string value
  | .bytes data | .malformed data => .ofBytes data
  | .document doc => doc
  | .struct members => .object (memberDocuments members)
  | .transfer fault => fault.document

def memberDocuments : List (String × Value) → List (String × Json)
  | [] => []
  | (name, value) :: rest => (name, labelled value.kind (content value)) :: memberDocuments rest
end

def toDocument (value : Value) : Json :=
  labelled value.kind value.content

end Value

def Hit.document (hit : Hit) : Json :=
  .object
    [("probe", .string hit.probe), ("pid", .natural hit.pid), ("tid", .natural hit.tid),
      ("comm", .string hit.comm), ("ns", .natural hit.ns), ("cpu", .integer hit.cpu),
      ("size", .natural hit.size), ("args", .object (Value.memberDocuments hit.args))]

namespace Report

/-! ## Bundles -/

/-- The members of a span; `write` gives a hit its form. -/
def spanMembers (write : Hit → Json) (opening : Opening) (ending : Ending)
    (children : List Json) : Json :=
  .object
    [("name", .string opening.root),
      ("counter", Json.ofOption (fun counter => .integer counter.toInt) opening.counter),
      ("status", .string ending.name), ("start", write opening.start),
      ("end", Json.ofOption write ending.hit?), ("children", .array children)]

mutual
def nodeDocument (write : Hit → Json) : Node → Json
  | .leaf hit => write hit
  | .span opening ending children =>
    spanMembers write opening ending (nodeDocuments write children)

def nodeDocuments (write : Hit → Json) : List Node → List Json
  | [] => []
  | node :: rest => nodeDocument write node :: nodeDocuments write rest
end

def bundleDocument (write : Hit → Json) : Bundle → Json
  | .loose hits =>
    .object
      [("name", .null), ("counter", .null), ("status", .string "Loose"), ("start", .null),
        ("end", .null), ("children", .array (hits.map write))]
  | .span opening ending children =>
    spanMembers write opening ending (nodeDocuments write children)

def threadDocument (thread : ThreadReport) : Json :=
  .object
    [("tid", .natural thread.tid), ("hits", .natural thread.hits),
      ("reordered", .natural thread.reordered), ("evicted", .natural thread.evicted),
      ("bundles", .array (thread.bundles.map (bundleDocument Hit.document)))]

def operationDocument (operation : Operation) : Json :=
  .object
    [("op", .natural operation.handle.toNat),
      ("hits", .array (operation.hits.map Hit.document))]

/-! ## Summary -/

def counterDocument (counter : Counter) : Json :=
  .object
    [("counts", Json.ofKeyed Json.natural counter.counts), ("total", .natural counter.total)]

def timerDocument (timer : IntervalTimer) : Json :=
  .object
    [("count", .natural timer.count), ("total_secs", .ofFloat timer.total),
      ("average_interval_secs", .ofFloat timer.average),
      ("average_frequency_hz", .ofFloat timer.frequency)]

def summaryDocument (summary : Summary) : Json :=
  .object
    [("hits", .natural summary.hits), ("decode_failures", .natural summary.decodeFailures),
      ("dropped_total", .natural summary.droppedTotal),
      ("dropped", Json.ofKeyed Json.natural summary.dropped),
      ("drop_percent", .ofFloat summary.dropPercent),
      ("probes", counterDocument summary.probes), ("sizes", counterDocument summary.sizes),
      ("comms", counterDocument summary.comms), ("errors", counterDocument summary.errors),
      ("intervals", Json.ofKeyed timerDocument summary.intervals),
      ("start_stop", Json.ofKeyed timerDocument summary.startStop)]

def document (report : Report) : Json :=
  .object
    [("threads", .array (report.threads.map threadDocument)),
      ("operations", .array (report.operations.map operationDocument)),
      ("summary", summaryDocument report.summary)]

end Report
end ProbeTrace
