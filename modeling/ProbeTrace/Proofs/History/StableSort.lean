import Mathlib.Data.List.Induction
import ProbeTrace.History

/-!
# Stable order of time

Hits in order of time, those of the same time in order of arrival. Such an order
is determined by what it holds at each time. Placing hits one by one, as they
arrive, builds the stable sort of all of them.
-/

set_option autoImplicit false

namespace ProbeTrace.ThreadHistory

def Chronological (hits : List Hit) : Prop :=
  hits.Pairwise fun a b => a.ns ≤ b.ns

/-- The hits of one time, in the order of the list. -/
def atTime (t : Nat) (hits : List Hit) : List Hit :=
  hits.filter fun hit => hit.ns = t

/-- The stable sort of hits by time. -/
def timeSorted (hits : List Hit) : List Hit :=
  hits.mergeSort fun a b => a.ns ≤ b.ns

theorem atTime_append (t : Nat) (a b : List Hit) :
    atTime t (a ++ b) = atTime t a ++ atTime t b :=
  List.filter_append a b

theorem mem_atTime {t : Nat} {hits : List Hit} {hit : Hit} :
    hit ∈ atTime t hits ↔ hit ∈ hits ∧ hit.ns = t := by
  simp [atTime]

theorem timeSorted_perm (hits : List Hit) : (timeSorted hits).Perm hits :=
  List.mergeSort_perm hits _

theorem timeSorted_chronological (hits : List Hit) : Chronological (timeSorted hits) := by
  have h : (timeSorted hits).Pairwise fun a b => decide (a.ns ≤ b.ns) = true :=
    List.pairwise_mergeSort (by simp only [decide_eq_true_eq]; omega)
      (by simp only [Bool.or_eq_true, decide_eq_true_eq]; omega) hits
  simpa [Chronological] using h

/-- Sorting leaves the hits of one time as they are: they are in order already, and a
stable sort keeps every part that is. -/
theorem timeSorted_atTime (t : Nat) (hits : List Hit) :
    atTime t (timeSorted hits) = atTime t hits := by
  have hties : (atTime t hits).Pairwise fun a b => decide (a.ns ≤ b.ns) = true := by
    apply List.pairwise_of_forall_mem_list
    intro a ha b hb
    simp [(mem_atTime.1 ha).2, (mem_atTime.1 hb).2]
  have hkept : (atTime t hits).Sublist (timeSorted hits) :=
    List.sublist_mergeSort (by simp only [decide_eq_true_eq]; omega)
      (by simp only [Bool.or_eq_true, decide_eq_true_eq]; omega) hties List.filter_sublist
  have hsub : (atTime t hits).Sublist (atTime t (timeSorted hits)) := by
    have h := hkept.filter fun hit => decide (hit.ns = t)
    simpa [atTime] using h
  have hlength : (atTime t hits).length = (atTime t (timeSorted hits)).length :=
    ((timeSorted_perm hits).filter _).length_eq.symm
  exact (hsub.eq_of_length hlength).symm

/-- Two lists in order of time are equal when they hold the same hits at each time. -/
theorem Chronological.eq_of_atTime {a b : List Hit} (ha : Chronological a)
    (hb : Chronological b) (h : ∀ t, atTime t a = atTime t b) : a = b := by
  induction a generalizing b with
  | nil =>
    cases b with
    | nil => rfl
    | cons y b =>
      have hy := h y.ns
      simp [atTime] at hy
  | cons x a ih =>
    cases b with
    | nil =>
      have hx := h x.ns
      simp [atTime] at hx
    | cons y b =>
      obtain ⟨hxa, hresta⟩ := List.pairwise_cons.1 ha
      obtain ⟨hyb, hrestb⟩ := List.pairwise_cons.1 hb
      have hxmem : x ∈ y :: b :=
        (mem_atTime.1 (h x.ns ▸ mem_atTime.2 ⟨List.mem_cons_self, rfl⟩)).1
      have hymem : y ∈ x :: a :=
        (mem_atTime.1 (h y.ns ▸ mem_atTime.2 ⟨List.mem_cons_self, rfl⟩)).1
      have htime : x.ns = y.ns := by
        rcases List.mem_cons.1 hxmem with hxy | hxb
        · rw [hxy]
        · rcases List.mem_cons.1 hymem with hyx | hya
          · rw [hyx]
          · exact Nat.le_antisymm (hxa y hya) (hyb x hxb)
      have hhead : x = y := by
        have hx := h x.ns
        simp only [atTime, List.filter_cons, htime, decide_true, if_true] at hx
        exact (List.cons.inj hx).1
      subst hhead
      congr 1
      apply ih hresta hrestb
      intro t
      have ht := h t
      by_cases hxt : x.ns = t <;> simpa [atTime, hxt] using ht

theorem place_chronological (hit : Hit) (hits : List Hit) (h : Chronological hits) :
    Chronological (place hit hits) := by
  induction hits with
  | nil => simp [place, Chronological]
  | cons first rest ih =>
    obtain ⟨hfirst, hrest⟩ := List.pairwise_cons.1 h
    by_cases hearly : hit.ns < first.ns
    · rw [place, if_pos hearly]
      refine List.pairwise_cons.2 ⟨?_, h⟩
      intro later hlater
      rcases List.mem_cons.1 hlater with rfl | hlater
      · exact Nat.le_of_lt hearly
      · exact Nat.le_trans (Nat.le_of_lt hearly) (hfirst later hlater)
    · rw [place, if_neg hearly]
      refine List.pairwise_cons.2 ⟨?_, ih hrest⟩
      intro later hlater
      rcases List.mem_cons.1 ((place_perm hit rest).mem_iff.1 hlater) with rfl | hlater
      · exact Nat.le_of_not_lt hearly
      · exact hfirst later hlater

theorem place_atTime (t : Nat) (hit : Hit) (hits : List Hit) (h : Chronological hits) :
    atTime t (place hit hits) = atTime t (hits ++ [hit]) := by
  induction hits with
  | nil => rfl
  | cons first rest ih =>
    obtain ⟨hfirst, hrest⟩ := List.pairwise_cons.1 h
    by_cases hearly : hit.ns < first.ns
    · have hlater : hit.ns = t → atTime t (first :: rest) = [] := by
        intro ht
        apply List.filter_eq_nil_iff.2
        intro later hlater
        have hle : first.ns ≤ later.ns := by
          rcases List.mem_cons.1 hlater with rfl | hlater
          · exact Nat.le_refl _
          · exact hfirst later hlater
        simp only [decide_eq_true_eq]
        omega
      rw [place, if_pos hearly, atTime_append]
      by_cases ht : hit.ns = t
      · rw [hlater ht]
        have hnil := hlater ht
        simp only [atTime] at hnil
        simp [atTime, ht, hnil]
      · simp [atTime, ht]
    · rw [place, if_neg hearly]
      have hplaced := ih hrest
      by_cases ht : first.ns = t <;> simpa [atTime, ht] using hplaced

/-- Sorting after a further arrival is placing that arrival. -/
theorem timeSorted_append_singleton (hits : List Hit) (hit : Hit) :
    timeSorted (hits ++ [hit]) = place hit (timeSorted hits) := by
  have hsorted := timeSorted_chronological hits
  apply (timeSorted_chronological _).eq_of_atTime (place_chronological hit _ hsorted)
  intro t
  rw [timeSorted_atTime, place_atTime t hit _ hsorted, atTime_append, atTime_append,
    timeSorted_atTime]

end ProbeTrace.ThreadHistory
