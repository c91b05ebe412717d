import ProbeTrace.History
import ProbeTrace.Notice
import ProbeTrace.Operation
import ProbeTrace.Span.Reconstruct
import ProbeTrace.Stats.Summary

/-!
# Sessions

A session takes in hits, failures to decode and losses as they come, and turns
what it has into a report at any time. Making a report hands out the operations
that are under way; everything else is left as it is.
-/

set_option autoImplicit false

namespace ProbeTrace

/-- What a session is asked to do with what it takes in. -/
structure SessionOptions where
  /-- The argument that tells operations apart, if there are to be any. -/
  correlate : Option String
  /-- Probes that complete an operation. -/
  closeOn : List String
  spans : SpanOptions
  /-- Most hits that are kept of a thread; zero means all. -/
  maxHitsPerThread : Nat
  deriving DecidableEq, Repr

structure ThreadReport where
  tid : Nat
  hits : Nat
  reordered : Nat
  evicted : Nat
  bundles : List Bundle

structure Report where
  threads : List ThreadReport
  /-- The completed operations, then those under way. -/
  operations : List Operation
  summary : Summary

structure Session where
  options : SessionOptions
  store : HitStore
  stats : Stats
  drops : DropCounter
  arena : Option Arena
  completed : List Operation

namespace Session

def new (options : SessionOptions) : Session where
  options
  store := HitStore.empty options.maxHitsPerThread
  stats := Stats.empty
  drops := DropCounter.empty
  arena := options.correlate.map Arena.empty
  completed := []

/-- The arena after a hit, and the operation that the hit completes. -/
def correlated (closeOn : List String) (hit : Hit) (arena : Arena) : Arena × Option Operation :=
  match arena.handle? hit with
  | none => (arena, none)
  | some handle =>
    let filed := arena.record handle hit
    if hit.probe ∈ closeOn then (filed.erase handle, filed.get? handle) else (filed, none)

def completing? (session : Session) (hit : Hit) : Option Operation :=
  session.arena.bind fun arena => (correlated session.options.closeOn hit arena).2

def onHit (session : Session) (hit : Hit) : Session :=
  { session with
    store := session.store.insert hit
    stats := session.stats.record hit
    arena := session.arena.map fun arena => (correlated session.options.closeOn hit arena).1
    completed := session.completed ++ (session.completing? hit).toList }

def hitNotices (session : Session) (hit : Hit) : List Notice :=
  (session.completing? hit).toList.map fun operation =>
    .operationComplete operation.handle operation.hits.length

def onDecodeError (session : Session) : Session :=
  { session with stats := session.stats.recordDecodeFailure }

def onDrop (session : Session) (probe : String) (count : Nat) : Session :=
  { session with drops := session.drops.record probe count }

/-! ## Reports -/

def threadReport (spans : SpanOptions) (tid : Nat) (history : ThreadHistory) : ThreadReport where
  tid
  hits := history.hits.length
  reordered := history.reordered
  evicted := history.dropped
  bundles := reconstruct history.hits spans

/-- The statistics with the histories of all threads taken in, in order of the threads. -/
def fullStats (session : Session) : Stats :=
  session.store.threads.foldl (fun stats entry => stats.absorb entry.1 entry.2.hits) session.stats

/-- What a session has by now; timers are combined over the threads in the given orders. -/
def report (session : Session) (orders : ThreadOrders := .ascending) : Report where
  threads := session.store.threads.map fun entry =>
    threadReport session.options.spans entry.1 entry.2
  operations := session.completed ++ (session.arena.map Arena.outstanding).getD []
  summary := session.fullStats.summary session.drops orders

/-- A report, and the session without the operations that were under way. -/
def finish (session : Session) (orders : ThreadOrders := .ascending) : Report × Session :=
  (session.report orders,
    { session with arena := session.arena.map fun arena => Arena.empty arena.key })

def finishNotices (session : Session) : List Notice :=
  session.store.threads.flatMap fun entry =>
    (expiredRoots entry.2.hits session.options.spans).map Notice.spanExpired

end Session
end ProbeTrace
