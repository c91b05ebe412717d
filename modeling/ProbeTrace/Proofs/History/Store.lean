import Mathlib.Algebra.Ring.Nat
import ProbeTrace.Proofs.History.Retention
import ProbeTrace.Proofs.Keyed

/-!
# Stores of hits

A store is its histories side by side: what a thread's history holds depends on
that thread's hits alone.
-/

set_option autoImplicit false

namespace ProbeTrace.HitStore

open ThreadHistory

/-- The store after some hits have arrived. -/
def ofHits (capacity : Nat) (hits : List Hit) : HitStore :=
  hits.foldl insert (empty capacity)

def ofThread (tid : Nat) (hits : List Hit) : List Hit :=
  hits.filter fun hit => hit.tid = tid

theorem ofHits_append_singleton (capacity : Nat) (hits : List Hit) (hit : Hit) :
    ofHits capacity (hits ++ [hit]) = (ofHits capacity hits).insert hit := by
  simp [ofHits]

theorem ofHits_capacity (capacity : Nat) (hits : List Hit) :
    (ofHits capacity hits).capacity = capacity := by
  induction hits using List.reverseRecOn with
  | nil => rfl
  | append_singleton hits hit ih => rw [ofHits_append_singleton, insert, ih]

theorem ofHits_sorted (capacity : Nat) (hits : List Hit) :
    (ofHits capacity hits).threads.Sorted := by
  induction hits using List.reverseRecOn with
  | nil => exact List.Pairwise.nil
  | append_singleton hits hit ih =>
    rw [ofHits_append_singleton]
    exact ih.update hit.tid _

/-- A thread's history is the one its own hits alone would give. -/
theorem ofHits_history? (capacity : Nat) (hits : List Hit) (tid : Nat) :
    (ofHits capacity hits).history? tid =
      if (ofThread tid hits).isEmpty then none
      else some (ThreadHistory.ofHits capacity (ofThread tid hits)) := by
  induction hits using List.reverseRecOn with
  | nil => rfl
  | append_singleton hits hit ih =>
    have hget : (ofHits capacity (hits ++ [hit])).history? tid =
        if hit.tid = tid then
          some ((((ofHits capacity hits).history? hit.tid).getD
            (ThreadHistory.empty capacity)).insert hit)
        else (ofHits capacity hits).history? tid := by
      rw [ofHits_append_singleton, history?, insert,
        (ofHits_sorted capacity hits).get?_update, ofHits_capacity]
      rfl
    by_cases htid : hit.tid = tid
    · have hown : ofThread tid (hits ++ [hit]) = ofThread tid hits ++ [hit] := by
        simp [ofThread, htid]
      have hold : ((ofHits capacity hits).history? tid).getD (ThreadHistory.empty capacity) =
          ThreadHistory.ofHits capacity (ofThread tid hits) := by
        rw [ih]
        cases ofThread tid hits <;> rfl
      rw [hget, if_pos htid, htid, hold, hown]
      simp [ThreadHistory.ofHits]
    · have hown : ofThread tid (hits ++ [hit]) = ofThread tid hits := by
        simp [ofThread, htid]
      rw [hget, if_neg htid, ih, hown]

theorem mem_tids_iff (capacity : Nat) (hits : List Hit) (tid : Nat) :
    tid ∈ (ofHits capacity hits).tids ↔ ∃ hit ∈ hits, hit.tid = tid := by
  rw [tids, Keyed.mem_keys_iff_isSome]
  change ((ofHits capacity hits).history? tid).isSome ↔ _
  rw [ofHits_history?]
  by_cases hempty : ofThread tid hits = []
  · have hnone := hempty
    simp only [ofThread, List.filter_eq_nil_iff, decide_eq_true_eq] at hnone
    simpa [hempty] using hnone
  · obtain ⟨hit, hhit⟩ := List.exists_mem_of_ne_nil _ hempty
    simp only [ofThread, List.mem_filter, decide_eq_true_eq] at hhit
    simpa [hempty] using ⟨hit, hhit⟩

theorem ofHits_size (capacity : Nat) (hits : List Hit) :
    (ofHits capacity hits).size =
      (((ofHits capacity hits).tids.filterMap (ofHits capacity hits).history?).map
        fun history => history.hits.length).sum := by
  have hvalues := (ofHits_sorted capacity hits).filterMap_get?_keys
  change (ofHits capacity hits).tids.filterMap (ofHits capacity hits).history? = _ at hvalues
  rw [hvalues, size, List.length_flatMap, Keyed.values, List.map_map]
  rfl

/-- A store is a bounded stable sort for each thread: it keeps the last of that thread's
hits in order of time, counts those it gave up and those that had been overtaken, and is
the sum of its histories. -/
theorem store_sorts_each_thread (capacity : Nat) (hits : List Hit) :
    (∀ tid, (ofHits capacity hits).history? tid =
      if (ofThread tid hits).isEmpty then none
      else some {
        capacity
        hits := (timeSorted (ofThread tid hits)).rtake
          (retained capacity (ofThread tid hits).length)
        reordered := overtaken (ofThread tid hits)
        dropped := (ofThread tid hits).length -
          retained capacity (ofThread tid hits).length }) ∧
    (∀ tid, tid ∈ (ofHits capacity hits).tids ↔ ∃ hit ∈ hits, hit.tid = tid) ∧
    (ofHits capacity hits).tids.Pairwise (· < ·) ∧
    (ofHits capacity hits).size =
      (((ofHits capacity hits).tids.filterMap (ofHits capacity hits).history?).map
        fun history => history.hits.length).sum := by
  refine ⟨?_, mem_tids_iff capacity hits, ?_, ofHits_size capacity hits⟩
  · intro tid
    rw [ofHits_history?, ThreadHistory.ofHits_eq, List.rtake, (timeSorted_perm _).length_eq,
      excess_eq]
  · exact List.pairwise_map.2 (ofHits_sorted capacity hits)

end ProbeTrace.HitStore
