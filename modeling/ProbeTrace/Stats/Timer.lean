import ProbeTrace.Hit
import ProbeTrace.Span.Delimiter
import ProbeTrace.Stats.Counter

/-!
# Timers

An interval timer counts the gaps between moments and adds them up in seconds,
in the order in which they come. A start/stop timer takes its gaps from pairs of
delimiters of one root: an end belongs to the last start that has none yet.
-/

set_option autoImplicit false

namespace ProbeTrace

/-- A span of time in seconds with the unit in which it reads best. -/
def humanSeconds (seconds : Float) : String :=
  if seconds == 0.0 then "0s"
  else if seconds < 1e-6 then Decimal.fixed 2 (seconds * 1e9) ++ "ns"
  else if seconds < 1e-3 then Decimal.fixed 2 (seconds * 1e6) ++ "us"
  else if seconds < 1.0 then Decimal.fixed 2 (seconds * 1e3) ++ "ms"
  else Decimal.fixed 2 seconds ++ "s"

def secondsOf (ns : Nat) : Float :=
  countFloat ns / 1e9

structure IntervalTimer where
  count : Nat
  /-- The sum of all gaps in seconds. -/
  total : Float
  deriving Repr

namespace IntervalTimer

def zero : IntervalTimer :=
  ⟨0, 0.0⟩

/-- Takes in the gap between two moments; a gap backwards in time is none. -/
def tick (timer : IntervalTimer) (earlier later : Nat) : IntervalTimer :=
  ⟨timer.count + 1, timer.total + secondsOf (later - earlier)⟩

def average (timer : IntervalTimer) : Float :=
  if timer.count = 0 then 0.0 else timer.total / countFloat timer.count

def frequency (timer : IntervalTimer) : Float :=
  if timer.total == 0.0 then 0.0 else countFloat timer.count / timer.total

def add (a b : IntervalTimer) : IntervalTimer :=
  ⟨a.count + b.count, a.total + b.total⟩

def combine (timers : List IntervalTimer) : IntervalTimer :=
  timers.foldl add zero

def text (timer : IntervalTimer) : String :=
  toString timer.count ++ " intervals, average " ++ humanSeconds timer.average ++
    " (" ++ Decimal.fixed 2 timer.frequency ++ "/s)"

end IntervalTimer

structure StartStopTimer where
  root : String
  /-- The times of the starts that have no end yet, the last one first. -/
  pending : List Nat
  timer : IntervalTimer
  deriving Repr

namespace StartStopTimer

def new (root : String) : StartStopTimer :=
  ⟨root, [], IntervalTimer.zero⟩

def tick (state : StartStopTimer) (hit : Hit) : StartStopTimer :=
  if hit.probe = state.root ++ Delimiter.startSuffix then
    { state with pending := hit.ns :: state.pending }
  else if hit.probe = state.root ++ Delimiter.endSuffix then
    match state.pending with
    | [] => state
    | start :: rest => { state with pending := rest, timer := state.timer.tick start hit.ns }
  else state

end StartStopTimer
end ProbeTrace
