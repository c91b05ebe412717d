import ProbeTrace.Proofs.Keyed
import ProbeTrace.Stats.Summary

/-!
# Timers by name and thread

Two maps in each other make one map over pairs of keys: an update is seen at its own
name and thread only. A name is there only if a thread has a timer of it, so the
timers of a name are told by looking up every thread.
-/

set_option autoImplicit false

namespace ProbeTrace.ThreadTimers

variable {α : Type}

/-- Names and threads are in order, and no name is there without a thread. -/
structure Sound (timers : ThreadTimers α) : Prop where
  names : Keyed.Sorted timers
  threads : ∀ entry ∈ timers, Keyed.Sorted entry.2 ∧ entry.2 ≠ []

theorem sound_nil : Sound ([] : ThreadTimers α) where
  names := List.Pairwise.nil
  threads := by simp

variable {timers : ThreadTimers α}

theorem Sound.sorted_threads (h : Sound timers) (name : String) :
    Keyed.Sorted ((Keyed.get? name timers).getD []) := by
  cases hthreads : Keyed.get? name timers with
  | none => exact List.Pairwise.nil
  | some threads => exact (h.threads (name, threads) (h.names.mem_iff.2 hthreads)).1

theorem get?_eq (name : String) (tid : Nat) :
    get? timers name tid = Keyed.get? tid ((Keyed.get? name timers).getD []) := by
  rw [get?]
  cases Keyed.get? name timers <;> rfl

theorem Sound.update (h : Sound timers) (name : String) (tid : Nat) (f : Option α → α) :
    Sound (update name tid f timers) where
  names := h.names.update ..
  threads := by
    intro entry hentry
    rw [ThreadTimers.update, (h.names.update ..).mem_iff, h.names.get?_update] at hentry
    split at hentry
    case isTrue =>
      rw [← Option.some.inj hentry]
      refine ⟨(h.sorted_threads name).update tid f, ?_⟩
      intro hempty
      have htid : tid ∈ Keyed.keys (Keyed.update tid f ((Keyed.get? name timers).getD [])) :=
        Keyed.mem_keys_update.2 (.inl rfl)
      rw [hempty] at htid
      cases htid
    case isFalse => exact h.threads entry (h.names.mem_iff.2 hentry)

/-- An update changes the timer of its own name and thread and no other. -/
theorem Sound.get?_update (h : Sound timers) (name other : String) (tid thread : Nat)
    (f : Option α → α) :
    get? (ThreadTimers.update name tid f timers) other thread =
      if name = other ∧ tid = thread then some (f (get? timers name tid))
      else get? timers other thread := by
  rw [get?_eq, ThreadTimers.update, h.names.get?_update]
  by_cases hname : name = other
  · subst hname
    rw [if_pos rfl, Option.getD_some, (h.sorted_threads name).get?_update, ← get?_eq, ← get?_eq]
    by_cases htid : tid = thread <;> simp [htid]
  · simp [hname, get?_eq]

/-- The timers of a name are those that looking up every thread finds. -/
theorem Sound.threads_eq (h : Sound timers) {name : String} {listed : Keyed Nat α}
    (hsorted : Keyed.Sorted listed)
    (hlisted : ∀ tid, get? timers name tid = Keyed.get? tid listed) :
    Keyed.get? name timers = if listed = [] then none else some listed := by
  have heq : (Keyed.get? name timers).getD [] = listed := by
    apply (h.sorted_threads name).ext hsorted
    intro tid
    rw [← get?_eq, hlisted]
  cases hthreads : Keyed.get? name timers with
  | none =>
    rw [hthreads, Option.getD_none] at heq
    rw [if_pos heq.symm]
  | some threads =>
    rw [hthreads, Option.getD_some] at heq
    subst heq
    rw [if_neg (h.threads (name, threads) (h.names.mem_iff.2 hthreads)).2]

end ProbeTrace.ThreadTimers
