import ProbeTrace.Proofs.History.Arrival
import ProbeTrace.Proofs.Stats.Live

/-!
# Reports and the order of arrival

Events of one session come from several processors and may be mixed in any way.
A report does not show how, as long as hits of one thread and one time keep their
order. What it says of late hits and of operations is all that depends on it.
-/

set_option autoImplicit false

namespace ProbeTrace.Session

open HitStore SessionEvent

/-- The threads of a report without their counts of late hits are told by what the store
holds without them. -/
theorem report_threads_contents (session : Session) (orders : ThreadOrders) :
    ((session.finish orders).1.threads.map fun thread => { thread with reordered := 0 }) =
      (session.store.threads.map fun entry => (entry.1, contents entry.2)).map fun entry =>
        threadReport session.options.spans entry.1 entry.2 := by
  simp only [finish, report, List.map_map]
  rfl

theorem fullStats_contents (session : Session) :
    session.fullStats = (session.store.threads.map fun entry => (entry.1, contents entry.2)).foldl
      (fun stats entry => stats.absorb entry.1 entry.2.hits) session.stats := by
  rw [fullStats, List.foldl_map]
  rfl

theorem takeAll_new_store (options : SessionOptions) (events : List SessionEvent) :
    ((new options).takeAll events).store = ofHits options.maxHitsPerThread (hits events) :=
  takeAll_store (new options) events

/-- Two sequences of the same events lead to the same report, if hits of one thread and
one time stand in the same order in both and threads are visited in the same orders: the same
threads with the same hits, evictions and bundles, and the same summary. -/
theorem report_of_any_arrival (options : SessionOptions) {first second : List SessionEvent}
    (hperm : first.Perm second) (hties : SameTies (hits first) (hits second))
    (orders : ThreadOrders) :
    let a := (new options).takeAll first
    let b := (new options).takeAll second
    ((a.finish orders).1.threads.map fun thread => { thread with reordered := 0 }) =
        ((b.finish orders).1.threads.map fun thread => { thread with reordered := 0 }) ∧
      (∀ tid, (a.store.history? tid).map contents = (b.store.history? tid).map contents) ∧
      (a.finish orders).1.summary = (b.finish orders).1.summary := by
  intro a b
  have hstore : (a.store.threads.map fun entry => (entry.1, contents entry.2)) =
      b.store.threads.map fun entry => (entry.1, contents entry.2) := by
    rw [takeAll_new_store, takeAll_new_store]
    exact threads_contents hties options.maxHitsPerThread
  have hoptions : a.options = b.options := by
    rw [takeAll_options, takeAll_options]
  have hstats : a.stats = b.stats := by
    rw [takeAll_stats, takeAll_stats]
    exact Stats.foldl_take_perm hperm _
  have hdrops : a.drops = b.drops := by
    rw [takeAll_drops, takeAll_drops]
    exact hperm.foldl_eq _
  refine ⟨?_, ?_, ?_⟩
  · rw [report_threads_contents, report_threads_contents, hstore, hoptions]
  · intro tid
    rw [takeAll_new_store, takeAll_new_store]
    exact history?_contents hties options.maxHitsPerThread tid
  · change a.fullStats.summary a.drops orders = b.fullStats.summary b.drops orders
    rw [fullStats_contents, fullStats_contents, hstore, hstats, hdrops]

/-- A hit of a thread at a time. -/
def seen (probe : String) (tid ns : Nat) : Hit where
  probe
  pid := 1
  tid
  comm := "c"
  ns
  cpu := 0
  size := 32
  args := []

/-- Three hits of one thread and one of another, a loss and a failure, with two hits kept of
each thread: backwards they make the same report, though no hit comes late then. -/
theorem report_backwards :
    let options : SessionOptions := ⟨none, [], SpanOptions.standard, 2⟩
    let events : List SessionEvent := [.hit (seen "p_end" 1 30), .lost "p" 4,
      .hit (seen "p" 2 15), .hit (seen "p_start" 1 20), .undecodable, .hit (seen "p" 1 10)]
    let a := (new options).takeAll events
    let b := (new options).takeAll events.reverse
    events.Perm events.reverse ∧ SameTies (hits events) (hits events.reverse) ∧
      (a.finish.1.threads.map ThreadReport.reordered = [2, 0] ∧
        b.finish.1.threads.map ThreadReport.reordered = [0, 0]) ∧
      (a.finish.1.threads.map fun thread => { thread with reordered := 0 }) =
        (b.finish.1.threads.map fun thread => { thread with reordered := 0 }) ∧
      a.finish.1.summary = b.finish.1.summary := by
  intro options events a b
  have hperm : events.Perm events.reverse := (List.reverse_perm events).symm
  have hties : SameTies (hits events) (hits events.reverse) := by
    intro tid ns
    -- no two of the hits have their thread and their time in common
    simp only [events, hits, hit?, seen, List.reverse_cons, List.reverse_nil, List.nil_append,
      List.cons_append, List.filterMap_cons, List.filterMap_nil]
    by_cases h30 : ns = 30
    · grind
    by_cases h20 : ns = 20
    · grind
    by_cases h15 : ns = 15
    · grind
    grind
  obtain ⟨hthreads, -, hsummary⟩ := report_of_any_arrival options hperm hties .ascending
  exact ⟨hperm, hties, ⟨by decide, by decide⟩, hthreads, hsummary⟩

end ProbeTrace.Session
