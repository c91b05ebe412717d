import ProbeTrace.Proofs.Keyed
import ProbeTrace.Proofs.Session.Events

/-!
# Live counts

Counters and losses are kept up with every event. What they come to is a matter
of how often each value was met, so the order of the events does not show in
them.
-/

set_option autoImplicit false

namespace ProbeTrace

theorem Counter.add_comm (counter : Counter) (a b : String) :
    (counter.add a).add b = (counter.add b).add a := by
  by_cases h : a = b
  · rw [h]
  · simp only [add, Keyed.update_comm h]

instance : RightCommutative Counter.add :=
  ⟨Counter.add_comm⟩

namespace DropCounter

theorem record_comm (drops : DropCounter) (p q : String) (m n : Nat) :
    (drops.record p m).record q n = (drops.record q n).record p m := by
  have htotal : ((drops.total + m) % totalRange + n) % totalRange =
      ((drops.total + n) % totalRange + m) % totalRange := by
    rw [Nat.mod_add_mod, Nat.mod_add_mod, Nat.add_right_comm]
  have hperProbe : ((drops.record p m).record q n).perProbe =
      ((drops.record q n).record p m).perProbe := by
    by_cases h : p = q
    · subst h
      simp only [record, Keyed.update_update, Option.getD_some, Nat.add_right_comm]
    · simp only [record, Keyed.update_comm h]
  exact congrArg₂ DropCounter.mk htotal hperProbe

instance : RightCommutative take where
  right_comm drops a b := by
    cases a <;> cases b <;> first | rfl | exact record_comm drops _ _ _ _

end DropCounter

/-- What an event counts as among the outcomes of payloads. -/
def SessionEvent.outcomes : SessionEvent → List String
  | .hit arrived => Value.memberOutcomes arrived.args
  | .undecodable => [Stats.decodeFailedOutcome]
  | .lost _ _ => []

def SessionEvent.isUndecodable : SessionEvent → Bool
  | .undecodable => true
  | .hit _ | .lost _ _ => false

namespace Stats

open SessionEvent

/-- The statistics after some events, each part by itself. -/
theorem foldl_take (stats : Stats) (events : List SessionEvent) :
    events.foldl take stats =
      { stats with
        hits := stats.hits + (SessionEvent.hits events).length
        decodeFailures := stats.decodeFailures + events.countP isUndecodable
        probes := ((SessionEvent.hits events).map Hit.probe).foldl Counter.add stats.probes
        sizes := ((SessionEvent.hits events).map fun hit => toString hit.size).foldl
          Counter.add stats.sizes
        comms := ((SessionEvent.hits events).map Hit.comm).foldl Counter.add stats.comms
        errors := (events.flatMap outcomes).foldl Counter.add stats.errors } := by
  induction events generalizing stats with
  | nil => rfl
  | cons event events ih =>
    rw [List.foldl_cons, ih, hits_cons, List.flatMap_cons, List.foldl_append, List.countP_cons]
    cases event with
    | hit arrived =>
      simp [take, record, hit?, isUndecodable, outcomes, Nat.add_assoc, Nat.add_comm 1]
    | undecodable =>
      simp [take, recordDecodeFailure, hit?, isUndecodable, outcomes, Nat.add_assoc,
        Nat.add_comm 1]
    | lost probe count => simp [take, hit?, isUndecodable, outcomes]

theorem foldl_take_perm {first second : List SessionEvent} (h : first.Perm second)
    (stats : Stats) : first.foldl take stats = second.foldl take stats := by
  have hhits : (SessionEvent.hits first).Perm (SessionEvent.hits second) :=
    h.filterMap SessionEvent.hit?
  rw [foldl_take, foldl_take, hhits.length_eq, h.countP_eq, (hhits.map Hit.probe).foldl_eq,
    (hhits.map fun hit => toString hit.size).foldl_eq, (hhits.map Hit.comm).foldl_eq,
    (h.flatMap_right outcomes).foldl_eq]

end Stats
end ProbeTrace
