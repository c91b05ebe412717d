import Mathlib.Algebra.Ring.Nat
import Mathlib.Data.List.Perm.Basic
import ProbeTrace.Stats.Summary

/-!
# Threads visited in any order

The order in which the threads of a name are visited shows in the rounded sum of
their seconds and in nothing else: the timers that are combined are the same ones in
another order, and their counts add up to the same.
-/

set_option autoImplicit false

namespace ProbeTrace

namespace IntervalTimer

theorem foldl_add_count (timer : IntervalTimer) (timers : List IntervalTimer) :
    (timers.foldl add timer).count = timer.count + (timers.map IntervalTimer.count).sum := by
  induction timers generalizing timer with
  | nil => rfl
  | cons next rest ih =>
    rw [List.foldl_cons, ih, List.map_cons, List.sum_cons, add, Nat.add_assoc]

theorem combine_count (timers : List IntervalTimer) :
    (combine timers).count = (timers.map IntervalTimer.count).sum :=
  (foldl_add_count zero timers).trans (Nat.zero_add _)

/-- A timer without its sum of seconds. -/
def untimed (timer : IntervalTimer) : IntervalTimer :=
  { timer with total := 0.0 }

end IntervalTimer

/-- A summary without the sums of seconds of its timers. -/
def Summary.untimed (summary : Summary) : Summary :=
  { summary with
    intervals := summary.intervals.map fun entry => (entry.1, entry.2.untimed)
    startStop := summary.startStop.map fun entry => (entry.1, entry.2.untimed) }

namespace Stats

theorem combineThreads_count (order : ThreadOrder) (timers : Keyed Nat IntervalTimer) :
    (combineThreads order timers).count = (timers.map fun entry => entry.2.count).sum := by
  rw [combineThreads, IntervalTimer.combine_count, List.map_map]
  exact ((order.perm timers).map _).sum_nat

theorem combineThreads_untimed (first second : ThreadOrder) (timers : Keyed Nat IntervalTimer) :
    (combineThreads first timers).untimed = (combineThreads second timers).untimed := by
  rw [IntervalTimer.untimed, IntervalTimer.untimed, combineThreads_count, combineThreads_count]

/-- Apart from sums of seconds, a summary is the same in whatever order threads are visited. -/
theorem summary_untimed (stats : Stats) (drops : DropCounter) (first second : ThreadOrders) :
    (stats.summary drops first).untimed = (stats.summary drops second).untimed := by
  simp only [summary, Summary.untimed, List.map_map]
  congr 1
  · apply List.map_congr_left
    intro entry _
    exact congrArg (Prod.mk entry.1) (combineThreads_untimed ..)
  · apply List.map_congr_left
    intro entry _
    exact congrArg (Prod.mk entry.1) (combineThreads_untimed ..)

/-- If each thread has a timer made of its hits, those of a rearrangement of the threads are
combined. -/
theorem combineThreads_map (order : ThreadOrder) (make : List Hit → IntervalTimer)
    (family : List (Nat × List Hit)) :
    ∃ threads : List (Nat × List Hit), threads.Perm family ∧
      combineThreads order (family.map fun thread => (thread.1, make thread.2)) =
        IntervalTimer.combine (threads.map fun thread => make thread.2) := by
  let own (thread : Nat × List Hit) : Nat × IntervalTimer := (thread.1, make thread.2)
  have hmade : List.Forall₂ (fun entry thread => entry = own thread) (family.map own) family :=
    List.forall₂_map_left_iff.2 (List.forall₂_same.2 fun _ _ => rfl)
  obtain ⟨threads, hvisited, hperm⟩ := List.perm_comp_forall₂ (order.perm _) hmade
  have hlisted : order.visit (family.map own) = threads.map own := by
    rw [← List.forall₂_map_right_iff, List.forall₂_eq_eq_eq] at hvisited
    exact hvisited
  refine ⟨threads, hperm, ?_⟩
  change IntervalTimer.combine ((order.visit (family.map own)).map Prod.snd) = _
  rw [hlisted, List.map_map]
  rfl

end Stats
end ProbeTrace
