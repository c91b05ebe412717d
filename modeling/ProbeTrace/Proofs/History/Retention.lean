import Mathlib.Data.List.DropRight
import ProbeTrace.Proofs.History.StableSort

/-!
# Retention

A bounded history gives up its earliest hit whenever there is one too many. What
is left after any number of arrivals is the end of the stable sort of all of
them, although some were gone before others came.
-/

set_option autoImplicit false

namespace ProbeTrace.ThreadHistory

/-- How many of so many hits a bound lets stay; without a bound, all. -/
def retained (capacity n : Nat) : Nat :=
  if capacity = 0 then n else min n capacity

/-- How many hits arrived behind a hit with a later time. -/
def overtaken (hits : List Hit) : Nat :=
  hits.zipIdx.countP fun entry => (hits.take entry.2).any fun earlier => entry.1.ns < earlier.ns

theorem overtaken_append_singleton (hits : List Hit) (hit : Hit) :
    overtaken (hits ++ [hit]) =
      overtaken hits + (hits.any fun earlier => hit.ns < earlier.ns).toNat := by
  have hbefore : hits.zipIdx.countP (fun entry =>
      ((hits ++ [hit]).take entry.2).any fun earlier => entry.1.ns < earlier.ns) =
      overtaken hits := by
    apply List.countP_congr
    intro entry hentry
    have hlt : entry.2 < hits.length := by
      simpa using List.snd_lt_of_mem_zipIdx hentry
    rw [List.take_append_of_le_length (Nat.le_of_lt hlt)]
  rw [overtaken, List.zipIdx_append, List.countP_append, hbefore]
  cases h : hits.any fun earlier => decide (hit.ns < earlier.ns) <;> simp [h]

theorem place_of_before (hit : Hit) (hits : List Hit) (h : ∀ later ∈ hits, hit.ns < later.ns) :
    place hit hits = hit :: hits := by
  cases hits with
  | nil => rfl
  | cons first rest => rw [place, if_pos (h first List.mem_cons_self)]

/-- Giving up the earliest hits first and one more after the arrival is the same as
giving up one more of all: what went was never later than what is now the earliest. -/
theorem place_drop (hit : Hit) (hits : List Hit) (h : Chronological hits) (k : Nat) :
    (place hit (hits.drop k)).drop 1 = (place hit hits).drop (k + 1) := by
  induction hits generalizing k with
  | nil => simp [place]
  | cons first rest ih =>
    obtain ⟨hfirst, hrest⟩ := List.pairwise_cons.1 h
    cases k with
    | zero => rfl
    | succ k =>
      by_cases hearly : hit.ns < first.ns
      · have hbefore : ∀ later ∈ rest.drop k, hit.ns < later.ns := fun later hlater =>
          Nat.lt_of_lt_of_le hearly (hfirst later (List.mem_of_mem_drop hlater))
        rw [List.drop_succ_cons, place_of_before hit _ hbefore, place, if_pos hearly]
        simp
      · rw [List.drop_succ_cons, ih hrest k, place, if_neg hearly, List.drop_succ_cons]

theorem Chronological.last_later {hits : List Hit} (h : Chronological hits) (hit : Hit) :
    (hits.getLast?.any fun last => hit.ns < last.ns) =
      hits.any fun earlier => hit.ns < earlier.ns := by
  induction hits using List.reverseRecOn with
  | nil => rfl
  | append_singleton hits last _ =>
    have hlast : ∀ earlier ∈ hits, earlier.ns ≤ last.ns := fun earlier hearlier =>
      (List.pairwise_append.1 h).2.2 earlier hearlier last List.mem_cons_self
    rw [Bool.eq_iff_iff]
    simp only [List.getLast?_concat, Option.any_some, decide_eq_true_eq, List.any_append,
      Bool.or_eq_true, List.any_eq_true, List.mem_singleton, exists_eq_left]
    constructor
    · exact .inr
    · rintro (⟨earlier, hearlier, hlt⟩ | hlt)
      · exact Nat.lt_of_lt_of_le hlt (hlast earlier hearlier)
      · exact hlt

theorem excess_lt (capacity : Nat) (hits : List Hit) (h : hits ≠ []) :
    excess capacity hits < hits.length := by
  have hpos := List.length_pos_iff.2 h
  unfold excess
  split <;> omega

theorem isLate_retained (capacity reordered dropped : Nat) (hits : List Hit) (hit : Hit) :
    isLate ⟨capacity, (timeSorted hits).drop (excess capacity hits), reordered, dropped⟩ hit =
      hits.any fun earlier => hit.ns < earlier.ns := by
  have hlength := (timeSorted_perm hits).length_eq
  have hany : ((timeSorted hits).any fun earlier => decide (hit.ns < earlier.ns)) =
      hits.any fun earlier => decide (hit.ns < earlier.ns) := by
    rw [Bool.eq_iff_iff]
    simp only [List.any_eq_true, (timeSorted_perm hits).mem_iff]
  rw [← hany, ← (timeSorted_chronological hits).last_later, isLate, List.getLast?_drop]
  by_cases hempty : hits = []
  · simp [hempty, timeSorted]
  · rw [if_neg]
    have := excess_lt capacity hits hempty
    omega

/-- What an arrival gives up and what was given up before it add up to the excess. -/
theorem excess_place (capacity : Nat) (hits : List Hit) (hit : Hit) :
    excess capacity (hits ++ [hit]) = excess capacity hits +
      excess capacity (place hit ((timeSorted hits).drop (excess capacity hits))) := by
  have hlength := (timeSorted_perm hits).length_eq
  simp only [excess, place_length, List.length_drop, List.length_append, List.length_singleton,
    hlength]
  split <;> omega

theorem place_excess (capacity : Nat) (hits : List Hit) (hit : Hit) :
    (place hit ((timeSorted hits).drop (excess capacity hits))).drop
        (excess capacity (place hit ((timeSorted hits).drop (excess capacity hits)))) =
      (timeSorted (hits ++ [hit])).drop (excess capacity (hits ++ [hit])) := by
  have hlength := (timeSorted_perm hits).length_eq
  have hsurplus : excess capacity (place hit ((timeSorted hits).drop (excess capacity hits))) = 1 ∨
      excess capacity hits = 0 ∧
        excess capacity (place hit ((timeSorted hits).drop (excess capacity hits))) = 0 := by
    simp only [excess, place_length, List.length_drop, hlength]
    split <;> omega
  rw [excess_place, timeSorted_append_singleton]
  rcases hsurplus with hone | ⟨hnone, hzero⟩
  · rw [hone, place_drop hit _ (timeSorted_chronological hits)]
  · rw [hzero, hnone]
    rfl

/-- A history in one formula: its hits, its counts and its bound. -/
theorem ofHits_eq (capacity : Nat) (hits : List Hit) :
    ofHits capacity hits =
      ⟨capacity, (timeSorted hits).drop (excess capacity hits), overtaken hits,
        excess capacity hits⟩ := by
  induction hits using List.reverseRecOn with
  | nil => simp [ofHits, empty, timeSorted, overtaken, excess]
  | append_singleton hits hit ih =>
    have hstep : ofHits capacity (hits ++ [hit]) = (ofHits capacity hits).insert hit := by
      simp [ofHits]
    rw [hstep, ih, insert, isLate_retained, overtaken_append_singleton, ← place_excess,
      excess_place]

theorem excess_eq (capacity : Nat) (hits : List Hit) :
    excess capacity hits = hits.length - retained capacity hits.length := by
  unfold excess retained
  split <;> omega

end ProbeTrace.ThreadHistory
