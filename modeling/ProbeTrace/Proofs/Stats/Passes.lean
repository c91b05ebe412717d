import Mathlib.Algebra.Ring.Nat
import ProbeTrace.Proofs.History.StableSort
import ProbeTrace.Proofs.Stats.ThreadTimers

/-!
# One pass for all timers

The hits of a thread are gone through once, and each ticks the timers that it
concerns. Every timer comes out as if it had the hits of its thread to itself: a
start/stop timer ticked with all of them, and an interval timer ticked with each
two moments of its probe that follow each other.
-/

set_option autoImplicit false

namespace ProbeTrace

open Delimiter

/-! ## Start/stop timers -/

namespace StartStopTimer

/-- The timer of a root, which is there from the first start on. -/
def advance (root : String) : Option StartStopTimer → Hit → Option StartStopTimer
  | none, hit => if hit.probe = root ++ startSuffix then some ((new root).tick hit) else none
  | some timer, hit => some (timer.tick hit)

variable {root : String} {hit : Hit}

theorem tick_root (timer : StartStopTimer) (hit : Hit) : (timer.tick hit).root = timer.root := by
  unfold tick
  split
  · rfl
  · split
    · split <;> rfl
    · rfl

theorem tick_other {timer : StartStopTimer} (hstart : hit.probe ≠ timer.root ++ startSuffix)
    (hend : hit.probe ≠ timer.root ++ endSuffix) : timer.tick hit = timer := by
  rw [tick, if_neg hstart, if_neg hend]

/-- Before the first start a timer stays as new: an end has nothing to belong to. -/
theorem new_tick (hstart : hit.probe ≠ root ++ startSuffix) : (new root).tick hit = new root := by
  have hname : hit.probe ≠ (new root).root ++ startSuffix := hstart
  rw [tick, if_neg hname]
  exact ite_self _

/-- Without a start among the hits a timer stays as new. -/
theorem foldl_tick_unstarted {hits : List Hit}
    (h : ∀ hit ∈ hits, hit.probe ≠ root ++ startSuffix) :
    hits.foldl tick (new root) = new root := by
  induction hits with
  | nil => rfl
  | cons hit rest ih =>
    rw [List.forall_mem_cons] at h
    rw [List.foldl_cons, new_tick h.1, ih h.2]

theorem advance_start (timer : Option StartStopTimer) (h : hit.probe = root ++ startSuffix) :
    advance root timer hit = some ((timer.getD (new root)).tick hit) := by
  cases timer with
  | none => simp [advance, h]
  | some timer => rfl

theorem advance_other {timer : Option StartStopTimer} (hroot : ∀ t ∈ timer, t.root = root)
    (hstart : hit.probe ≠ root ++ startSuffix) (hend : hit.probe ≠ root ++ endSuffix) :
    advance root timer hit = timer := by
  cases timer with
  | none => simp [advance, hstart]
  | some timer =>
    obtain rfl := hroot timer rfl
    exact congrArg some (tick_other hstart hend)

theorem foldl_advance_some (timer : StartStopTimer) (hits : List Hit) :
    hits.foldl (advance root) (some timer) = some (hits.foldl tick timer) := by
  induction hits generalizing timer with
  | nil => rfl
  | cons hit rest ih => exact ih (timer.tick hit)

/-- The timer is that of all hits from the beginning on, if there is a start among them. -/
theorem foldl_advance_none (root : String) (hits : List Hit) :
    hits.foldl (advance root) none =
      if ∃ hit ∈ hits, hit.probe = root ++ startSuffix then some (hits.foldl tick (new root))
      else none := by
  induction hits with
  | nil => simp
  | cons hit rest ih =>
    by_cases hstart : hit.probe = root ++ startSuffix
    · simp [advance, hstart, foldl_advance_some]
    · simp [advance, hstart, ih, new_tick]

end StartStopTimer

/-! ## Interval timers -/

namespace IntervalTimer

/-- Two by two, the moments that follow each other. -/
def gaps (times : List Nat) : List (Nat × Nat) :=
  times.zip times.tail

/-- The timer of a probe, which is there from the first gap on. -/
def advance (timer : Option IntervalTimer) (gap : Nat × Nat) : Option IntervalTimer :=
  some ((timer.getD zero).tick gap.1 gap.2)

def tickAll (gaps : List (Nat × Nat)) : IntervalTimer :=
  gaps.foldl (fun timer gap => timer.tick gap.1 gap.2) zero

theorem gaps_cons_cons (earlier later : Nat) (rest : List Nat) :
    gaps (earlier :: later :: rest) = (earlier, later) :: gaps (later :: rest) :=
  rfl

/-- A moment in front adds its gap to the next one. -/
theorem gaps_behind (last : Option Nat) (time : Nat) (rest : List Nat) :
    gaps (last.toList ++ time :: rest) = last.toList.map (·, time) ++ gaps (time :: rest) := by
  cases last <;> rfl

theorem gaps_length (times : List Nat) : (gaps times).length = times.length - 1 := by
  simp [gaps]

theorem gaps_eq_nil_iff (times : List Nat) : gaps times = [] ↔ times.length < 2 := by
  rw [← List.length_eq_zero_iff, gaps_length]
  omega

theorem foldl_advance_some (timer : IntervalTimer) (gaps : List (Nat × Nat)) :
    gaps.foldl advance (some timer) =
      some (gaps.foldl (fun timer gap => timer.tick gap.1 gap.2) timer) := by
  induction gaps generalizing timer with
  | nil => rfl
  | cons gap rest ih => exact ih (timer.tick gap.1 gap.2)

theorem foldl_advance_none (gaps : List (Nat × Nat)) :
    gaps.foldl advance none = if gaps = [] then none else some (tickAll gaps) := by
  cases gaps with
  | nil => rfl
  | cons gap rest =>
    rw [if_neg (List.cons_ne_nil gap rest)]
    exact foldl_advance_some (zero.tick gap.1 gap.2) rest

theorem foldl_tick_count (timer : IntervalTimer) (gaps : List (Nat × Nat)) :
    (gaps.foldl (fun timer gap => timer.tick gap.1 gap.2) timer).count =
      timer.count + gaps.length := by
  induction gaps generalizing timer with
  | nil => rfl
  | cons gap rest ih =>
    rw [List.foldl_cons, ih, List.length_cons, tick, Nat.add_assoc, Nat.add_comm 1]

theorem tickAll_count (gaps : List (Nat × Nat)) : (tickAll gaps).count = gaps.length :=
  (foldl_tick_count zero gaps).trans (Nat.zero_add _)

/-- The gaps between moments in order make up the time from the first to the last. -/
theorem gaps_sum {times : List Nat} (h : times.Pairwise (· ≤ ·)) {first last : Nat}
    (hfirst : times.head? = some first) (hlast : times.getLast? = some last) :
    ((gaps times).map fun gap => gap.2 - gap.1).sum = last - first := by
  induction times generalizing first with
  | nil => cases hfirst
  | cons time rest ih =>
    cases hfirst
    cases rest with
    | nil =>
      cases hlast
      exact (Nat.sub_self _).symm
    | cons next rest =>
      obtain ⟨hearlier, hrest⟩ := List.pairwise_cons.1 h
      rw [List.getLast?_cons_cons] at hlast
      have hstep : time ≤ next := hearlier next List.mem_cons_self
      have hreach : next ≤ last := by
        rcases List.mem_cons.1 (List.mem_of_getLast? hlast) with rfl | hmem
        · exact Nat.le_refl _
        · exact (List.pairwise_cons.1 hrest).1 last hmem
      rw [gaps_cons_cons, List.map_cons, List.sum_cons, ih hrest rfl hlast]
      omega

end IntervalTimer

/-- The moments at which a probe fired. -/
def firings (probe : String) (hits : List Hit) : List Nat :=
  (hits.filter fun hit => hit.probe = probe).map Hit.ns

theorem firings_cons (probe : String) (hit : Hit) (rest : List Hit) :
    firings probe (hit :: rest) =
      if hit.probe = probe then hit.ns :: firings probe rest else firings probe rest := by
  by_cases h : hit.probe = probe <;> simp [firings, h]

theorem firings_sorted {hits : List Hit} (h : ThreadHistory.Chronological hits) (probe : String) :
    (firings probe hits).Pairwise (· ≤ ·) :=
  List.pairwise_map.2 (h.sublist List.filter_sublist)

namespace Stats

/-! ## The pass -/

/-- Timers are in order, and those of a root are made for it. -/
structure Sound (stats : Stats) : Prop where
  intervals : ThreadTimers.Sound stats.intervals
  startStop : ThreadTimers.Sound stats.startStop
  roots : ∀ root tid timer, ThreadTimers.get? stats.startStop root tid = some timer →
    timer.root = root

theorem empty_sound : empty.Sound where
  intervals := ThreadTimers.sound_nil
  startStop := ThreadTimers.sound_nil
  roots := by simp [empty, ThreadTimers.get?, Keyed.get?]

variable {stats : Stats} {tid : Nat} {hit : Hit}

theorem tickInterval_startStop (tid : Nat) (last : Option Nat) (hit : Hit) (stats : Stats) :
    (tickInterval tid last hit stats).startStop = stats.startStop := by
  cases last <;> rfl

/-- A hit changes at most one start/stop timer, and that of its own thread. -/
theorem tickStartStop_cases (tid : Nat) (hit : Hit) (stats : Stats) :
    tickStartStop tid hit stats = stats ∨ ∃ root f, tickStartStop tid hit stats =
      { stats with startStop := ThreadTimers.update root tid f stats.startStop } := by
  unfold tickStartStop
  split
  · exact .inr ⟨_, _, rfl⟩
  · split
    · exact .inl rfl
    · split
      · exact .inl rfl
      · exact .inr ⟨_, _, rfl⟩

theorem tickStartStop_intervals (tid : Nat) (hit : Hit) (stats : Stats) :
    (tickStartStop tid hit stats).intervals = stats.intervals := by
  rcases tickStartStop_cases tid hit stats with hsame | ⟨root, f, hticked⟩
  · rw [hsame]
  · rw [hticked]

theorem Sound.tickStartStop_of_ne (h : stats.Sound) (hit : Hit) (root : String) {thread : Nat}
    (hne : tid ≠ thread) :
    ThreadTimers.get? (tickStartStop tid hit stats).startStop root thread =
      ThreadTimers.get? stats.startStop root thread := by
  rcases tickStartStop_cases tid hit stats with hsame | ⟨opened, f, hticked⟩
  · rw [hsame]
  · rw [hticked, h.startStop.get?_update, if_neg fun hown => hne hown.2]

/-- A hit advances the timer of every root: most of them not at all. -/
theorem Sound.tickStartStop_get? (h : stats.Sound) (tid : Nat) (hit : Hit) (root : String) :
    ThreadTimers.get? (tickStartStop tid hit stats).startStop root tid =
      StartStopTimer.advance root (ThreadTimers.get? stats.startStop root tid) hit := by
  have hother (hstart : startRoot? hit.probe ≠ some root) (hend : endRoot? hit.probe ≠ some root) :
      StartStopTimer.advance root (ThreadTimers.get? stats.startStop root tid) hit =
        ThreadTimers.get? stats.startStop root tid :=
    StartStopTimer.advance_other (h.roots root tid)
      (fun hprobe => hstart ((stem?_eq_some_iff ..).2 hprobe))
      (fun hprobe => hend ((stem?_eq_some_iff ..).2 hprobe))
  rw [tickStartStop]
  cases hstart : startRoot? hit.probe with
  | some opened =>
    have hprobe : hit.probe = opened ++ startSuffix := (stem?_eq_some_iff ..).1 hstart
    have hend : endRoot? hit.probe ≠ some root := fun hend =>
      append_endSuffix_ne root opened (((stem?_eq_some_iff ..).1 hend).symm.trans hprobe)
    simp only [h.startStop.get?_update]
    by_cases hroot : opened = root
    · subst hroot
      simp [StartStopTimer.advance_start _ hprobe]
    · simp [hroot, hother (by simp [hstart, hroot]) hend]
  | none =>
    cases hend : endRoot? hit.probe with
    | none => exact (hother (by simp [hstart]) (by simp [hend])).symm
    | some closed =>
      dsimp only
      by_cases hroot : closed = root
      · subst hroot
        cases htimer : ThreadTimers.get? stats.startStop closed tid with
        | none =>
          -- an end before the first start: there is no timer yet, and none is made
          have hprobe : hit.probe ≠ closed ++ startSuffix := fun hprobe =>
            Option.some_ne_none closed (((stem?_eq_some_iff ..).2 hprobe).symm.trans hstart)
          simp [htimer, StartStopTimer.advance, hprobe]
        | some timer => simp [h.startStop.get?_update, StartStopTimer.advance]
      · rw [hother (by simp [hstart]) (by simp [hend, hroot])]
        cases ThreadTimers.get? stats.startStop closed tid with
        | none => rfl
        | some timer => simp [h.startStop.get?_update, hroot]

theorem Sound.tickStartStop (h : stats.Sound) (tid : Nat) (hit : Hit) :
    (Stats.tickStartStop tid hit stats).Sound where
  intervals := by
    rw [tickStartStop_intervals]
    exact h.intervals
  startStop := by
    rcases tickStartStop_cases tid hit stats with hsame | ⟨root, f, hticked⟩
    · rw [hsame]
      exact h.startStop
    · rw [hticked]
      exact h.startStop.update ..
  roots := by
    intro root thread timer htimer
    by_cases htid : tid = thread
    · subst htid
      rw [h.tickStartStop_get?] at htimer
      cases hbefore : ThreadTimers.get? stats.startStop root tid with
      | none =>
        rw [hbefore, StartStopTimer.advance] at htimer
        split at htimer
        case isTrue =>
          rw [← Option.some.inj htimer, StartStopTimer.tick_root, StartStopTimer.new]
        case isFalse => cases htimer
      | some before =>
        rw [hbefore, StartStopTimer.advance] at htimer
        rw [← Option.some.inj htimer, StartStopTimer.tick_root]
        exact h.roots root tid before hbefore
    · rw [h.tickStartStop_of_ne hit root htid] at htimer
      exact h.roots root thread timer htimer

/-- A hit brings the gap to the last one to the timer of its probe. -/
theorem Sound.tickInterval_get? (h : stats.Sound) (tid : Nat) (last : Option Nat) (hit : Hit)
    (probe : String) (thread : Nat) :
    ThreadTimers.get? (tickInterval tid last hit stats).intervals probe thread =
      if hit.probe = probe ∧ tid = thread then
        (last.toList.map (·, hit.ns)).foldl IntervalTimer.advance
          (ThreadTimers.get? stats.intervals probe thread)
      else ThreadTimers.get? stats.intervals probe thread := by
  cases last with
  | none => exact (ite_self _).symm
  | some earlier =>
    rw [tickInterval, h.intervals.get?_update]
    by_cases hsame : hit.probe = probe ∧ tid = thread
    · obtain ⟨rfl, rfl⟩ := hsame
      simp [IntervalTimer.advance]
    · simp [hsame]

theorem Sound.tickInterval (h : stats.Sound) (tid : Nat) (last : Option Nat) (hit : Hit) :
    (Stats.tickInterval tid last hit stats).Sound := by
  cases last with
  | none => exact h
  | some earlier => exact ⟨h.intervals.update .., h.startStop, h.roots⟩

/-! ## Whole histories -/

theorem Sound.absorbFrom (h : stats.Sound) (tid : Nat) (last : Keyed String Nat)
    (hits : List Hit) : (Stats.absorbFrom tid last hits stats).Sound := by
  induction hits generalizing last stats with
  | nil => exact h
  | cons hit rest ih => exact ih ((h.tickInterval tid _ hit).tickStartStop tid hit) _

theorem Sound.absorbFrom_startStop (h : stats.Sound) (tid : Nat) (last : Keyed String Nat)
    (hits : List Hit) (root : String) (thread : Nat) :
    ThreadTimers.get? (Stats.absorbFrom tid last hits stats).startStop root thread =
      if tid = thread then
        hits.foldl (StartStopTimer.advance root) (ThreadTimers.get? stats.startStop root thread)
      else ThreadTimers.get? stats.startStop root thread := by
  induction hits generalizing last stats with
  | nil => exact (ite_self _).symm
  | cons hit rest ih =>
    have hinterval := h.tickInterval tid (Keyed.get? hit.probe last) hit
    rw [Stats.absorbFrom, ih (hinterval.tickStartStop tid hit)]
    by_cases htid : tid = thread
    · subst htid
      rw [if_pos rfl, if_pos rfl, hinterval.tickStartStop_get?, tickInterval_startStop,
        List.foldl_cons]
    · rw [if_neg htid, if_neg htid, hinterval.tickStartStop_of_ne hit root htid,
        tickInterval_startStop]

/-- What is known of the last firing of a probe counts as one more moment in front. -/
theorem Sound.absorbFrom_intervals (h : stats.Sound) (tid : Nat) {last : Keyed String Nat}
    (hlast : Keyed.Sorted last) (hits : List Hit) (probe : String) (thread : Nat) :
    ThreadTimers.get? (Stats.absorbFrom tid last hits stats).intervals probe thread =
      if tid = thread then
        (IntervalTimer.gaps ((Keyed.get? probe last).toList ++ firings probe hits)).foldl
          IntervalTimer.advance (ThreadTimers.get? stats.intervals probe thread)
      else ThreadTimers.get? stats.intervals probe thread := by
  induction hits generalizing last stats with
  | nil =>
    have hnone : IntervalTimer.gaps ((Keyed.get? probe last).toList ++ firings probe []) = [] := by
      cases Keyed.get? probe last <;> rfl
    rw [hnone]
    exact (ite_self _).symm
  | cons hit rest ih =>
    have hinterval := h.tickInterval tid (Keyed.get? hit.probe last) hit
    rw [Stats.absorbFrom, ih (hinterval.tickStartStop tid hit) (hlast.insert ..),
      tickStartStop_intervals, h.tickInterval_get?, hlast.get?_insert, firings_cons]
    by_cases htid : tid = thread
    · by_cases hprobe : hit.probe = probe
      · subst hprobe
        simp [htid, IntervalTimer.gaps_behind]
      · simp [htid, hprobe]
    · simp [htid]

theorem Sound.absorb (h : stats.Sound) (tid : Nat) (hits : List Hit) :
    (Stats.absorb stats tid hits).Sound :=
  h.absorbFrom tid [] hits

end Stats
end ProbeTrace
