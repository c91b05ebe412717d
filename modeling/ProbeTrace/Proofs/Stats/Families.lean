import Mathlib.Algebra.Ring.Nat
import ProbeTrace.Proofs.Stats.Passes
import ProbeTrace.Proofs.Stats.ThreadOrder

/-!
# Timers of many threads

Histories of different threads do not touch each other's timers. So the timers of a
name are those that each thread would have alone, and what is shown is their
combination, in whatever order the threads are visited.
-/

set_option autoImplicit false

namespace ProbeTrace

open Delimiter

namespace Stats

/-- Takes in the histories of several threads, one after the other. -/
def absorbAll (stats : Stats) (family : List (Nat × List Hit)) : Stats :=
  family.foldl (fun stats thread => stats.absorb thread.1 thread.2) stats

/-- The histories in order of their threads. -/
def byThread (family : List (Nat × List Hit)) : List (Nat × List Hit) :=
  family.mergeSort fun a b => a.1 ≤ b.1

theorem byThread_perm (family : List (Nat × List Hit)) : (byThread family).Perm family :=
  List.mergeSort_perm family _

theorem byThread_sorted {family : List (Nat × List Hit)} (h : (family.map Prod.fst).Nodup) :
    Keyed.Sorted (byThread family) := by
  have hle : (byThread family).Pairwise fun a b => decide (a.1 ≤ b.1) = true :=
    List.pairwise_mergeSort (by simp only [decide_eq_true_eq]; omega)
      (by simp only [Bool.or_eq_true, decide_eq_true_eq]; omega) family
  have hne : (byThread family).Pairwise fun a b => a.1 ≠ b.1 :=
    List.pairwise_map.1 (((byThread_perm family).map Prod.fst).nodup_iff.2 h)
  apply (hle.and hne).imp
  intro a b hab
  simp only [decide_eq_true_eq] at hab
  omega

theorem absorbAll_cons (stats : Stats) (thread : Nat × List Hit) (rest : List (Nat × List Hit)) :
    stats.absorbAll (thread :: rest) = (stats.absorb thread.1 thread.2).absorbAll rest :=
  rfl

theorem absorbAll_sound {stats : Stats} (h : stats.Sound) (family : List (Nat × List Hit)) :
    (stats.absorbAll family).Sound := by
  induction family generalizing stats with
  | nil => exact h
  | cons thread rest ih => exact ih (h.absorb thread.1 thread.2)

/-- What one history does to the timers of a name: its thread has one afterwards if the
history counts, and the timers of other threads stay as they are. -/
structure Passes {α : Type} (timers : Stats → ThreadTimers α) (name : String)
    (counts : List Hit → Bool) (make : List Hit → α) : Prop where
  fresh : timers empty = []
  own : ∀ {stats : Stats} (tid : Nat) (hits : List Hit), stats.Sound →
    ThreadTimers.get? (timers stats) name tid = none →
    ThreadTimers.get? (timers (stats.absorb tid hits)) name tid =
      if counts hits then some (make hits) else none
  others : ∀ {stats : Stats} (tid : Nat) (hits : List Hit) {thread : Nat}, stats.Sound →
    tid ≠ thread →
    ThreadTimers.get? (timers (stats.absorb tid hits)) name thread =
      ThreadTimers.get? (timers stats) name thread

section

variable {α : Type} {timers : Stats → ThreadTimers α} {name : String} {counts : List Hit → Bool}
  {make : List Hit → α}

theorem Passes.absorbAll_get? (h : Passes timers name counts make) {stats : Stats}
    (hsound : stats.Sound) {family : List (Nat × List Hit)} (hdistinct : (Keyed.keys family).Nodup)
    (hfresh : ∀ tid ∈ Keyed.keys family, ThreadTimers.get? (timers stats) name tid = none)
    (tid : Nat) :
    ThreadTimers.get? (timers (stats.absorbAll family)) name tid =
      (Keyed.get? tid family).elim (ThreadTimers.get? (timers stats) name tid) fun hits =>
        if counts hits then some (make hits) else none := by
  induction family generalizing stats with
  | nil => rfl
  | cons thread rest ih =>
    obtain ⟨first, hits⟩ := thread
    obtain ⟨hfirst, hrest⟩ := List.nodup_cons.1 hdistinct
    have hkept : ∀ tid ∈ Keyed.keys rest,
        ThreadTimers.get? (timers (stats.absorb first hits)) name tid = none := by
      intro tid htid
      have hne : first ≠ tid := fun heq => hfirst (heq ▸ htid)
      rw [h.others first hits hsound hne]
      exact hfresh tid (List.mem_cons_of_mem _ htid)
    have hstep := ih (hsound.absorb first hits) hrest hkept
    rw [absorbAll_cons]
    by_cases htid : first = tid
    · subst htid
      have hnone : Keyed.get? first rest = none := by
        rw [← Option.not_isSome_iff_eq_none, ← Keyed.mem_keys_iff_isSome]
        exact hfirst
      rw [hnone] at hstep
      have hown := h.own first hits hsound (hfresh first List.mem_cons_self)
      simpa [Keyed.get?] using hstep.trans hown
    · rw [h.others first hits hsound htid] at hstep
      simpa [Keyed.get?, htid] using hstep

/-- The timers of a name, thread by thread, are those of the histories that count. -/
theorem Passes.threads_eq (h : Passes timers name counts make)
    (hsound : ∀ {stats : Stats}, stats.Sound → (timers stats).Sound)
    {family : List (Nat × List Hit)} (hdistinct : (family.map Prod.fst).Nodup) :
    Keyed.get? name (timers (empty.absorbAll family)) =
      if ∀ thread ∈ family, counts thread.2 = false then none
      else some (((byThread family).filter fun thread => counts thread.2).map fun thread =>
        (thread.1, make thread.2)) := by
  have hsorted := byThread_sorted hdistinct
  have hlisted : Keyed.Sorted (((byThread family).filter fun thread => counts thread.2).map
      fun thread => (thread.1, make thread.2)) :=
    Keyed.Sorted.map (List.Pairwise.sublist List.filter_sublist hsorted) make
  have hnone : ((byThread family).filter fun thread => counts thread.2).map
      (fun thread => (thread.1, make thread.2)) = [] ↔
        ∀ thread ∈ family, counts thread.2 = false := by
    simp [List.filter_eq_nil_iff, (byThread_perm family).mem_iff]
  rw [(hsound (absorbAll_sound empty_sound family)).threads_eq hlisted]
  · simp only [hnone]
  · intro tid
    have hempty : ∀ tid, ThreadTimers.get? (timers empty) name tid = none := by
      intro tid
      rw [h.fresh]
      rfl
    rw [h.absorbAll_get? empty_sound hdistinct (fun tid _ => hempty tid), hempty,
      Keyed.get?_map, Keyed.get?_filter _ hsorted.keys_nodup,
      Keyed.get?_perm (byThread_perm family) hsorted.keys_nodup]
    cases Keyed.get? tid family with
    | none => rfl
    | some hits => cases hcounts : counts hits <;> simp [Option.filter_some, hcounts]

/-- Nothing is shown of a name if no history counts, and else the combination of what those
that do would make alone, each seen as an interval timer. -/
theorem Passes.shown (h : Passes timers name counts make)
    (hsound : ∀ {stats : Stats}, stats.Sound → (timers stats).Sound)
    {family : List (Nat × List Hit)} (hdistinct : (family.map Prod.fst).Nodup)
    (order : ThreadOrder) (view : α → IntervalTimer) :
    let shown := (Keyed.get? name (timers (empty.absorbAll family))).map fun threads =>
      combineThreads order (threads.map fun entry => (entry.1, view entry.2))
    (shown = none ↔ ∀ thread ∈ family, counts thread.2 = false) ∧
      ∀ timer, shown = some timer →
        ∃ threads : List (Nat × List Hit),
          threads.Perm (family.filter fun thread => counts thread.2) ∧
          timer = IntervalTimer.combine (threads.map fun thread => view (make thread.2)) := by
  intro shown
  have hshown : shown = _ := congrArg (Option.map _) (h.threads_eq hsound hdistinct)
  split at hshown
  case isTrue hnone => exact ⟨iff_of_true hshown hnone, fun _ htimer => nomatch hshown ▸ htimer⟩
  case isFalse hsome =>
    rw [hshown]
    refine ⟨iff_of_false (Option.some_ne_none _) hsome, ?_⟩
    intro timer htimer
    obtain ⟨threads, hperm, hcombined⟩ := combineThreads_map order (fun hits => view (make hits))
      ((byThread family).filter fun thread => counts thread.2)
    refine ⟨threads, hperm.trans ((byThread_perm family).filter _), ?_⟩
    rw [← hcombined, ← Option.some.inj htimer]
    exact congrArg (combineThreads order) List.map_map

end

/-- The timers of a root come from the histories with a start of it. -/
theorem startStop_passes (root : String) :
    Passes Stats.startStop root (fun hits => hits.any fun hit => hit.probe = root ++ startSuffix)
      fun hits => hits.foldl StartStopTimer.tick (.new root) where
  fresh := rfl
  own := by
    intro stats tid hits hsound hnone
    rw [absorb, hsound.absorbFrom_startStop, if_pos rfl, hnone, StartStopTimer.foldl_advance_none]
    simp
  others := by
    intro stats tid hits thread hsound hne
    rw [absorb, hsound.absorbFrom_startStop, if_neg hne]

/-- The timers of a probe come from the histories in which it fired twice. -/
theorem intervals_passes (probe : String) :
    Passes Stats.intervals probe (fun hits => 2 ≤ (firings probe hits).length)
      fun hits => IntervalTimer.tickAll (IntervalTimer.gaps (firings probe hits)) where
  fresh := rfl
  own := by
    intro stats tid hits hsound hnone
    rw [absorb, hsound.absorbFrom_intervals tid List.Pairwise.nil, if_pos rfl, hnone]
    rw [show Keyed.get? probe ([] : Keyed String Nat) = none from rfl, Option.toList_none,
      List.nil_append, IntervalTimer.foldl_advance_none]
    by_cases hfirings : 2 ≤ (firings probe hits).length
    · have hgaps : IntervalTimer.gaps (firings probe hits) ≠ [] := by
        rw [Ne, IntervalTimer.gaps_eq_nil_iff]
        omega
      simp [hfirings, hgaps]
    · have hgaps : IntervalTimer.gaps (firings probe hits) = [] := by
        rw [IntervalTimer.gaps_eq_nil_iff]
        omega
      simp [hfirings, hgaps]
  others := by
    intro stats tid hits thread hsound hne
    rw [absorb, hsound.absorbFrom_intervals tid List.Pairwise.nil, if_neg hne]

theorem startStop?_absorbAll {family : List (Nat × List Hit)}
    (hdistinct : (family.map Prod.fst).Nodup) (root : String) (order : ThreadOrder) :
    ((empty.absorbAll family).startStop? root order = none ↔
        ∀ thread ∈ family, ∀ hit ∈ thread.2, hit.probe ≠ root ++ startSuffix) ∧
      ∀ timer, (empty.absorbAll family).startStop? root order = some timer →
        ∃ threads : List (Nat × List Hit),
          threads.Perm (family.filter fun thread =>
            thread.2.any fun hit => hit.probe = root ++ startSuffix) ∧
          timer = IntervalTimer.combine (threads.map fun thread =>
            (thread.2.foldl StartStopTimer.tick (.new root)).timer) := by
  have hshown := (startStop_passes root).shown (fun h => h.startStop) hdistinct order
    StartStopTimer.timer
  simp only [List.any_eq_false, decide_eq_true_eq] at hshown
  exact hshown

/-- Of one thread by itself, a timer shows the pairs that a timer ticked with all its hits has
counted, none if it never began. -/
theorem startStop?_absorb_count (tid : Nat) (hits : List Hit) (root : String)
    (order : ThreadOrder) :
    ((empty.absorb tid hits).startStop? root order).elim 0 IntervalTimer.count =
      (hits.foldl StartStopTimer.tick (.new root)).timer.count := by
  have hdistinct : ([(tid, hits)].map Prod.fst).Nodup := List.nodup_singleton tid
  obtain ⟨hnone, hsome⟩ := startStop?_absorbAll hdistinct root order
  rw [List.forall_mem_singleton] at hnone
  change (empty.absorb tid hits).startStop? root order = none ↔ _ at hnone
  change ∀ timer, (empty.absorb tid hits).startStop? root order = some timer → _ at hsome
  cases hshown : (empty.absorb tid hits).startStop? root order with
  | none =>
    rw [StartStopTimer.foldl_tick_unstarted (hnone.1 hshown)]
    rfl
  | some timer =>
    obtain ⟨threads, hperm, rfl⟩ := hsome timer hshown
    have hstarted : (hits.any fun hit => hit.probe = root ++ startSuffix) = true := by
      by_contra hunstarted
      have hunshown := hnone.2 (by simpa using hunstarted)
      exact Option.some_ne_none _ (hshown.symm.trans hunshown)
    rw [List.filter_singleton, hstarted] at hperm
    obtain rfl := List.perm_singleton.1 hperm
    exact (IntervalTimer.combine_count _).trans (Nat.add_zero _)

theorem interval?_absorbAll {family : List (Nat × List Hit)}
    (hdistinct : (family.map Prod.fst).Nodup) (probe : String) (order : ThreadOrder) :
    ((empty.absorbAll family).interval? probe order = none ↔
        ∀ thread ∈ family, (firings probe thread.2).length < 2) ∧
      ∀ timer, (empty.absorbAll family).interval? probe order = some timer →
        ∃ threads : List (Nat × List Hit),
          threads.Perm (family.filter fun thread => 2 ≤ (firings probe thread.2).length) ∧
          timer = IntervalTimer.combine (threads.map fun thread =>
            IntervalTimer.tickAll (IntervalTimer.gaps (firings probe thread.2))) := by
  have hshown := (intervals_passes probe).shown (fun h => h.intervals) hdistinct order id
  simp only [id_eq, Prod.mk.eta, List.map_id', decide_eq_false_iff_not, Nat.not_le] at hshown
  exact hshown

/-- A thread in which a probe fired once or never adds nothing to the count of gaps. -/
theorem combine_gaps_count (probe : String) {threads family : List (Nat × List Hit)}
    (hperm : threads.Perm (family.filter fun thread => 2 ≤ (firings probe thread.2).length)) :
    (IntervalTimer.combine (threads.map fun thread =>
        IntervalTimer.tickAll (IntervalTimer.gaps (firings probe thread.2)))).count =
      (family.map fun thread => (firings probe thread.2).length - 1).sum := by
  rw [IntervalTimer.combine_count, List.map_map, (hperm.map _).sum_nat]
  clear hperm
  induction family with
  | nil => rfl
  | cons thread rest ih =>
    rw [List.map_cons, List.sum_cons, ← ih]
    by_cases hfirings : 2 ≤ (firings probe thread.2).length
    · simp [hfirings, IntervalTimer.tickAll_count, IntervalTimer.gaps_length]
    · have hnone : (firings probe thread.2).length - 1 = 0 := by omega
      simp [hfirings, hnone]

/-- One pass over each history of a family of threads makes every timer what a pass for it
alone would make it, in whatever order the threads of a name are visited. The timers of a root
are those that begin anew and are ticked with all hits of a thread, for each thread with a
start of the root; those of a probe are ticked with the moments of a thread that follow each
other, for each thread in which it fired twice. -/
theorem absorbAll_single_pass {family : List (Nat × List Hit)}
    (hdistinct : (family.map Prod.fst).Nodup) :
    let stats := empty.absorbAll family
    (∀ root order,
      (stats.startStop? root order = none ↔
        ∀ thread ∈ family, ∀ hit ∈ thread.2, hit.probe ≠ root ++ "_start") ∧
      ∀ timer, stats.startStop? root order = some timer →
        ∃ threads : List (Nat × List Hit),
          threads.Perm (family.filter fun thread =>
            thread.2.any fun hit => hit.probe = root ++ "_start") ∧
          timer = IntervalTimer.combine (threads.map fun thread =>
            (thread.2.foldl StartStopTimer.tick (.new root)).timer)) ∧
    (∀ probe order,
      (stats.interval? probe order = none ↔
        ∀ thread ∈ family, (firings probe thread.2).length < 2) ∧
      ∀ timer, stats.interval? probe order = some timer →
        (∃ threads : List (Nat × List Hit),
          threads.Perm (family.filter fun thread => 2 ≤ (firings probe thread.2).length) ∧
          timer = IntervalTimer.combine (threads.map fun thread =>
            IntervalTimer.tickAll (IntervalTimer.gaps (firings probe thread.2)))) ∧
        timer.count = (family.map fun thread => (firings probe thread.2).length - 1).sum) ∧
    ∀ probe, ∀ thread ∈ family, ThreadHistory.Chronological thread.2 →
      ∀ first last, (firings probe thread.2).head? = some first →
        (firings probe thread.2).getLast? = some last →
        ((IntervalTimer.gaps (firings probe thread.2)).map fun gap => gap.2 - gap.1).sum =
          last - first := by
  intro stats
  refine ⟨startStop?_absorbAll hdistinct, ?probes, ?gaps⟩
  case probes =>
    intro probe order
    obtain ⟨hnone, hsome⟩ := interval?_absorbAll hdistinct probe order
    refine ⟨hnone, ?_⟩
    intro timer htimer
    obtain ⟨threads, hperm, rfl⟩ := hsome timer htimer
    exact ⟨⟨threads, hperm, rfl⟩, combine_gaps_count probe hperm⟩
  case gaps =>
    intro probe thread _ hchronological first last hfirst hlast
    exact IntervalTimer.gaps_sum (firings_sorted hchronological probe) hfirst hlast

/-- A hit of a probe at a time. -/
def fired (probe : String) (ns : Nat) : Hit where
  probe
  pid := 1
  tid := 1
  comm := "c"
  ns
  cpu := 0
  size := 32
  args := []

/-- Two threads: an end before the first start, an end left over, and names that are
hardly more than their endings. -/
def mingled : List (Nat × List Hit) :=
  [(2, [fired "req_end" 5, fired "req_start" 10, fired "work" 12, fired "work" 20,
      fired "work" 50, fired "req_end" 60, fired "req_end" 70]),
    (1, [fired "_start" 1, fired "_start_end" 3, fired "work" 4])]

/-- The probe `_start_end` ends `_start`, which never began. -/
theorem mingled_single_pass :
    let stats := empty.absorbAll mingled
    (mingled.map Prod.fst).Nodup ∧ stats.startStop? "_start" = none ∧
      (∃ timer, stats.startStop? "req" = some timer ∧ timer.count = 1) ∧
      ∃ timer, stats.interval? "work" = some timer ∧ timer.count = 2 := by
  intro stats
  have hdistinct : (mingled.map Prod.fst).Nodup := by decide
  obtain ⟨hroots, hprobes, -⟩ := absorbAll_single_pass hdistinct
  have hunstarted : stats.startStop? "_start" = none :=
    (hroots "_start" .ascending).1.2 (by decide)
  have hstarted : stats.startStop? "req" ≠ none := fun hnone =>
    absurd ((hroots "req" .ascending).1.1 hnone) (by decide)
  have hfired : stats.interval? "work" ≠ none := fun hnone =>
    absurd ((hprobes "work" .ascending).1.1 hnone) (by decide)
  obtain ⟨timer, htimer⟩ := Option.ne_none_iff_exists'.1 hfired
  obtain ⟨pair, hpair⟩ := Option.ne_none_iff_exists'.1 hstarted
  have hcount : (stats.startStop? "req").map IntervalTimer.count = some 1 := by decide
  rw [hpair] at hcount
  exact ⟨hdistinct, hunstarted, ⟨pair, hpair, Option.some.inj hcount⟩,
    ⟨timer, htimer, ((hprobes "work" .ascending).2 timer htimer).2⟩⟩

end Stats
end ProbeTrace
