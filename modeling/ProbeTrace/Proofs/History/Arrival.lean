import ProbeTrace.Proofs.History.Store

/-!
# Order of arrival

What a store keeps is told by the hits of each thread and time, in the order in
which these few arrived. It does not matter how they were mixed with others; only
the number of hits that came late does depend on that.
-/

set_option autoImplicit false

namespace ProbeTrace

/-- Hits of one thread and one time stand in the same order in both lists. -/
def SameTies (a b : List Hit) : Prop :=
  ∀ tid ns, (a.filter fun hit => hit.tid = tid ∧ hit.ns = ns) =
    b.filter fun hit => hit.tid = tid ∧ hit.ns = ns

namespace HitStore

open ThreadHistory

/-- A history without its count of late hits. -/
def contents (history : ThreadHistory) : ThreadHistory :=
  { history with reordered := 0 }

theorem SameTies.timeSorted {a b : List Hit} (h : SameTies a b) (tid : Nat) :
    timeSorted (ofThread tid a) = timeSorted (ofThread tid b) := by
  apply (timeSorted_chronological _).eq_of_atTime (timeSorted_chronological _)
  intro t
  rw [timeSorted_atTime, timeSorted_atTime]
  have ht := h tid t
  simpa [atTime, ofThread, List.filter_filter, Bool.and_comm] using ht

/-- Equal ties make equal histories, up to the count of late hits. -/
theorem history?_contents {a b : List Hit} (h : SameTies a b) (capacity tid : Nat) :
    ((ofHits capacity a).history? tid).map contents =
      ((ofHits capacity b).history? tid).map contents := by
  have hsorted := SameTies.timeSorted h tid
  have hlength : (ofThread tid a).length = (ofThread tid b).length := by
    rw [← (timeSorted_perm _).length_eq, hsorted, (timeSorted_perm _).length_eq]
  have hempty : (ofThread tid a).isEmpty = (ofThread tid b).isEmpty := by
    rw [Bool.eq_iff_iff, List.isEmpty_iff_length_eq_zero, List.isEmpty_iff_length_eq_zero, hlength]
  have hexcess : excess capacity (ofThread tid a) = excess capacity (ofThread tid b) := by
    unfold excess
    rw [hlength]
  rw [ofHits_history?, ofHits_history?, hempty, ThreadHistory.ofHits_eq, ThreadHistory.ofHits_eq]
  split
  · rfl
  · simp only [Option.map_some, contents, hsorted, hexcess]

theorem threads_contents {a b : List Hit} (h : SameTies a b) (capacity : Nat) :
    ((ofHits capacity a).threads.map fun entry => (entry.1, contents entry.2)) =
      (ofHits capacity b).threads.map fun entry => (entry.1, contents entry.2) := by
  apply ((ofHits_sorted capacity a).map contents).ext ((ofHits_sorted capacity b).map contents)
  intro tid
  rw [Keyed.get?_map, Keyed.get?_map]
  exact history?_contents h capacity tid

end HitStore
end ProbeTrace
