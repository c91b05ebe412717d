import ProbeTrace.Record.Decoder
import ProbeTrace.Stats.Drops
import ProbeTrace.Stats.Timer

/-!
# Statistics of a session

Counters go on with every hit. Timers need the hits of a thread in order of
time, so they take in whole histories. They are kept for each thread by itself
and combined over all threads for a summary. The map that holds the timers of the
threads has no order, and sums of seconds are rounded, so the order in which the
threads are visited is an argument of everything that combines them.
-/

set_option autoImplicit false

namespace ProbeTrace

/-- Timers of one kind, by name and then by thread. -/
abbrev ThreadTimers (α : Type) := Keyed String (Keyed Nat α)

namespace ThreadTimers

variable {α : Type}

def get? (timers : ThreadTimers α) (name : String) (tid : Nat) : Option α :=
  (Keyed.get? name timers).bind (Keyed.get? tid)

def update (name : String) (tid : Nat) (f : Option α → α) (timers : ThreadTimers α) :
    ThreadTimers α :=
  Keyed.update name (fun threads => Keyed.update tid f (threads.getD [])) timers

end ThreadTimers

/-- An order in which the threads of a name are visited. It may be any, and may differ from one
map to the next. -/
structure ThreadOrder where
  visit : Keyed Nat IntervalTimer → List (Nat × IntervalTimer)
  perm : ∀ timers, (visit timers).Perm timers

/-- By the number of the thread. -/
def ThreadOrder.ascending : ThreadOrder :=
  ⟨id, List.Perm.refl⟩

/-- An order of the threads for each name: every name has a map of its own. -/
structure ThreadOrders where
  intervals : String → ThreadOrder
  startStop : String → ThreadOrder

def ThreadOrders.ascending : ThreadOrders :=
  ⟨fun _ => .ascending, fun _ => .ascending⟩

structure Stats where
  hits : Nat
  decodeFailures : Nat
  probes : Counter
  sizes : Counter
  comms : Counter
  /-- Outcomes of payloads and failures to decode. -/
  errors : Counter
  intervals : ThreadTimers IntervalTimer
  startStop : ThreadTimers StartStopTimer

/-- Everything a report says about a session as a whole. -/
structure Summary where
  hits : Nat
  decodeFailures : Nat
  droppedTotal : Nat
  dropped : Keyed String Nat
  /-- Lost events in percent of all that the probes sent. -/
  dropPercent : Float
  probes : Counter
  sizes : Counter
  comms : Counter
  errors : Counter
  intervals : Keyed String IntervalTimer
  startStop : Keyed String IntervalTimer

/-! ## Outcomes -/

namespace Value

def successOutcome : String := "success"

def badPayloadOutcome : String := "BAD_PAYLOAD"

mutual
/-- What became of the payloads in a value. -/
def outcomes : Value → List String
  | .transfer fault => [fault.kind]
  | .malformed _ => [badPayloadOutcome]
  | .document _ | .bytes _ => [successOutcome]
  | .struct members => memberOutcomes members
  | .int _ | .uint _ | .pointer _ | .text _ => []

def memberOutcomes : List (String × Value) → List String
  | [] => []
  | (_, value) :: rest => outcomes value ++ memberOutcomes rest
end

end Value

namespace Stats

def decodeFailedOutcome : String := "DECODE_FAILED"

def empty : Stats :=
  ⟨0, 0, .empty, .empty, .empty, .empty, [], []⟩

def record (stats : Stats) (hit : Hit) : Stats :=
  { stats with
    hits := stats.hits + 1
    probes := stats.probes.add hit.probe
    sizes := stats.sizes.add (toString hit.size)
    comms := stats.comms.add hit.comm
    errors := (Value.memberOutcomes hit.args).foldl Counter.add stats.errors }

def recordDecodeFailure (stats : Stats) : Stats :=
  { stats with
    decodeFailures := stats.decodeFailures + 1
    errors := stats.errors.add decodeFailedOutcome }

/-! ## Timers -/

/-- Takes in the gap to the last hit of the same probe, if there was one. -/
def tickInterval (tid : Nat) (last : Option Nat) (hit : Hit) (stats : Stats) : Stats :=
  match last with
  | none => stats
  | some earlier =>
    { stats with
      intervals := ThreadTimers.update hit.probe tid
        (fun timer => (timer.getD .zero).tick earlier hit.ns) stats.intervals }

/-- Takes a delimiter to the timer of its root. An end without any start before it has none. -/
def tickStartStop (tid : Nat) (hit : Hit) (stats : Stats) : Stats :=
  match Delimiter.startRoot? hit.probe with
  | some root =>
    { stats with
      startStop := ThreadTimers.update root tid
        (fun timer => (timer.getD (.new root)).tick hit) stats.startStop }
  | none =>
    match Delimiter.endRoot? hit.probe with
    | none => stats
    | some root =>
      match ThreadTimers.get? stats.startStop root tid with
      | none => stats
      | some timer =>
        { stats with
          startStop := ThreadTimers.update root tid (fun _ => timer.tick hit) stats.startStop }

/-- Takes in the hits of a thread in order, given the last time of each probe. -/
def absorbFrom (tid : Nat) : Keyed String Nat → List Hit → Stats → Stats
  | _, [], stats => stats
  | last, hit :: rest, stats =>
    absorbFrom tid (Keyed.insert hit.probe hit.ns last) rest
      (tickStartStop tid hit (tickInterval tid (Keyed.get? hit.probe last) hit stats))

def absorb (stats : Stats) (tid : Nat) (hits : List Hit) : Stats :=
  absorbFrom tid [] hits stats

def combineThreads (order : ThreadOrder) (timers : Keyed Nat IntervalTimer) : IntervalTimer :=
  IntervalTimer.combine ((order.visit timers).map Prod.snd)

def interval? (stats : Stats) (probe : String) (order : ThreadOrder := .ascending) :
    Option IntervalTimer :=
  (Keyed.get? probe stats.intervals).map (combineThreads order)

def pairTimers (timers : Keyed Nat StartStopTimer) : Keyed Nat IntervalTimer :=
  timers.map fun entry => (entry.1, entry.2.timer)

def startStop? (stats : Stats) (root : String) (order : ThreadOrder := .ascending) :
    Option IntervalTimer :=
  (Keyed.get? root stats.startStop).map fun timers => combineThreads order (pairTimers timers)

def dropPercent (stats : Stats) (dropped : Nat) : Float :=
  let emitted := stats.hits + stats.decodeFailures + dropped
  if emitted = 0 then 0.0 else countFloat dropped * 100.0 / countFloat emitted

def summary (stats : Stats) (drops : DropCounter) (orders : ThreadOrders := .ascending) :
    Summary where
  hits := stats.hits
  decodeFailures := stats.decodeFailures
  droppedTotal := drops.total
  dropped := drops.perProbe
  dropPercent := stats.dropPercent drops.total
  probes := stats.probes
  sizes := stats.sizes
  comms := stats.comms
  errors := stats.errors
  intervals := stats.intervals.map fun entry =>
    (entry.1, combineThreads (orders.intervals entry.1) entry.2)
  startStop := stats.startStop.map fun entry =>
    (entry.1, combineThreads (orders.startStop entry.1) (pairTimers entry.2))

end Stats
end ProbeTrace
