import Mathlib.Algebra.Ring.Nat
import ProbeTrace.Proofs.History.Store
import ProbeTrace.Proofs.Stats.Live

/-!
# Totals

Counters, losses and stores keep entries for each key, and some of them a total
beside the entries. One step raises one entry, and the total by as much, so the
entries always add up to what was put in.
-/

set_option autoImplicit false

namespace ProbeTrace

namespace Keyed

variable {κ α : Type} [LT κ] [DecidableLT κ] [DecidableEq κ]

/-- An update that raises what it finds raises the sum over all entries by as much. -/
theorem sum_update {g : α → Nat} {n : Nat} {f : Option α → α} (hnone : g (f none) = n)
    (hsome : ∀ a, g (f (some a)) = g a + n) (k : κ) (map : Keyed κ α) :
    ((update k f map).map fun entry => g entry.2).sum =
      (map.map fun entry => g entry.2).sum + n := by
  induction map with
  | nil => simp [update, hnone]
  | cons entry rest ih =>
    obtain ⟨key, a⟩ := entry
    by_cases hk : key = k
    · simp [update, hk, hsome, Nat.add_right_comm]
    · by_cases hlt : k < key
      · simp [update, hk, hlt, hnone, Nat.add_comm]
      · simp [update, hk, hlt, ih, Nat.add_assoc]

end Keyed

namespace Counter

/-- The counts of all values make up the total. -/
def Balanced (counter : Counter) : Prop :=
  counter.counts.values.sum = counter.total

theorem empty_balanced : empty.Balanced :=
  rfl

theorem Balanced.add {counter : Counter} (h : counter.Balanced) (value : String) :
    (counter.add value).Balanced := by
  have hsum := Keyed.sum_update (g := id) (f := fun count : Option Nat => count.getD 0 + 1)
    rfl (fun _ => rfl) value counter.counts
  exact hsum.trans (congrArg (· + 1) h)

theorem Balanced.foldl_add {counter : Counter} (h : counter.Balanced) (values : List String) :
    (values.foldl Counter.add counter).Balanced := by
  induction values generalizing counter with
  | nil => exact h
  | cons value rest ih => exact ih (h.add value)

theorem foldl_add_total (counter : Counter) (values : List String) :
    (values.foldl add counter).total = counter.total + values.length := by
  induction values generalizing counter with
  | nil => rfl
  | cons value rest ih =>
    rw [List.foldl_cons, ih, List.length_cons, Nat.add_comm rest.length, ← Nat.add_assoc]
    rfl

end Counter

namespace SessionEvent

/-- How many events are lost with an event. -/
def losses : SessionEvent → Nat
  | .lost _ count => count
  | .hit _ | .undecodable => 0

def totalLost (events : List SessionEvent) : Nat :=
  (events.map losses).sum

end SessionEvent

namespace DropCounter

open SessionEvent

theorem foldl_take_perProbe (drops : DropCounter) (events : List SessionEvent) :
    (events.foldl take drops).perProbe.values.sum =
      drops.perProbe.values.sum + totalLost events := by
  induction events generalizing drops with
  | nil => rfl
  | cons event events ih =>
    rw [List.foldl_cons, ih]
    cases event with
    | lost probe count =>
      have hsum := Keyed.sum_update (g := id) (n := count)
        (f := fun n : Option Nat => n.getD 0 + count) (Nat.zero_add _) (fun _ => rfl) probe
        drops.perProbe
      have hstep : (drops.take (.lost probe count)).perProbe.values.sum =
          drops.perProbe.values.sum + count := hsum
      rw [hstep, Nat.add_assoc]
      rfl
    | _ => simp [take, totalLost, losses]

theorem foldl_take_total (drops : DropCounter) (events : List SessionEvent)
    (h : drops.total < totalRange) :
    (events.foldl take drops).total = (drops.total + totalLost events) % totalRange := by
  induction events generalizing drops with
  | nil => exact (Nat.mod_eq_of_lt h).symm
  | cons event events ih =>
    rw [List.foldl_cons]
    cases event with
    | lost probe count =>
      rw [ih _ (Nat.mod_lt _ (by decide)), take, record, Nat.mod_add_mod, Nat.add_assoc]
      rfl
    | _ => simpa [take, totalLost, losses] using ih drops h

/-- As long as the total does not start again at zero, it is all that was lost, and the sum
over the probes. -/
theorem foldl_take_empty {events : List SessionEvent} (h : totalLost events < totalRange) :
    (events.foldl take empty).total = totalLost events ∧
      (events.foldl take empty).perProbe.values.sum = totalLost events := by
  rw [foldl_take_total empty events (by decide), foldl_take_perProbe]
  exact ⟨(congrArg (· % totalRange) (Nat.zero_add _)).trans (Nat.mod_eq_of_lt h), Nat.zero_add _⟩

end DropCounter

/-! ## Stores -/

/-- The hits that came to a history: those it has and those it gave up. -/
def ThreadHistory.taken (history : ThreadHistory) : Nat :=
  history.hits.length + history.dropped

theorem ThreadHistory.insert_taken (history : ThreadHistory) (hit : Hit) :
    (history.insert hit).taken = history.taken + 1 := by
  have hsurplus : excess history.capacity (place hit history.hits) ≤
      (place hit history.hits).length := by
    unfold excess
    split <;> omega
  simp only [taken, insert, List.length_drop, place_length] at *
  omega

theorem HitStore.insert_taken (store : HitStore) (hit : Hit) :
    ((store.insert hit).threads.map fun entry => entry.2.taken).sum =
      (store.threads.map fun entry => entry.2.taken).sum + 1 :=
  Keyed.sum_update (ThreadHistory.insert_taken _ hit)
    (fun history => ThreadHistory.insert_taken history hit) hit.tid store.threads

theorem HitStore.ofHits_taken (capacity : Nat) (hits : List Hit) :
    ((ofHits capacity hits).threads.map fun entry => entry.2.taken).sum = hits.length := by
  induction hits using List.reverseRecOn with
  | nil => rfl
  | append_singleton hits hit ih =>
    rw [ofHits_append_singleton, insert_taken, ih, List.length_append, List.length_singleton]

/-! ## Timers beside counts -/

namespace Stats

/-- Statistics without their timers. -/
def counts (stats : Stats) : Stats :=
  { stats with intervals := [], startStop := [] }

theorem tickInterval_counts (tid : Nat) (last : Option Nat) (hit : Hit) (stats : Stats) :
    (tickInterval tid last hit stats).counts = stats.counts := by
  cases last <;> rfl

theorem tickStartStop_counts (tid : Nat) (hit : Hit) (stats : Stats) :
    (tickStartStop tid hit stats).counts = stats.counts := by
  unfold tickStartStop
  split
  · rfl
  · split
    · rfl
    · split <;> rfl

theorem absorbFrom_counts (tid : Nat) (last : Keyed String Nat) (hits : List Hit)
    (stats : Stats) : (absorbFrom tid last hits stats).counts = stats.counts := by
  induction hits generalizing last stats with
  | nil => rfl
  | cons hit rest ih => rw [absorbFrom, ih, tickStartStop_counts, tickInterval_counts]

theorem fullStats_counts (session : Session) :
    session.fullStats.counts = session.stats.counts := by
  rw [Session.fullStats]
  -- the histories only move the timers
  generalize session.store.threads = threads
  generalize session.stats = stats
  induction threads generalizing stats with
  | nil => rfl
  | cons entry rest ih => rw [List.foldl_cons, ih, absorb, absorbFrom_counts]

end Stats
end ProbeTrace
