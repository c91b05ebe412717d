import ProbeTrace.Session

/-!
# Runs of a session

Hits, failures to decode and losses reach a session in some order. The parts of
the session take from them what concerns them and do not touch each other.
-/

set_option autoImplicit false

namespace ProbeTrace

/-- What reaches a session. -/
inductive SessionEvent where
  | hit (hit : Hit)
  | undecodable
  | lost (probe : String) (count : Nat)

namespace SessionEvent

def hit? : SessionEvent → Option Hit
  | .hit arrived => some arrived
  | .undecodable | .lost _ _ => none

/-- The hits among events, in order of arrival. -/
def hits (events : List SessionEvent) : List Hit :=
  events.filterMap hit?

theorem hits_cons (event : SessionEvent) (events : List SessionEvent) :
    hits (event :: events) = event.hit?.toList ++ hits events := by
  cases event <;> rfl

end SessionEvent

def Stats.take (stats : Stats) : SessionEvent → Stats
  | .hit hit => stats.record hit
  | .undecodable => stats.recordDecodeFailure
  | .lost _ _ => stats

def DropCounter.take (drops : DropCounter) : SessionEvent → DropCounter
  | .lost probe count => drops.record probe count
  | .hit _ | .undecodable => drops

namespace Session

def take (session : Session) : SessionEvent → Session
  | .hit hit => session.onHit hit
  | .undecodable => session.onDecodeError
  | .lost probe count => session.onDrop probe count

def takeAll (session : Session) (events : List SessionEvent) : Session :=
  events.foldl take session

theorem takeAll_options (session : Session) (events : List SessionEvent) :
    (session.takeAll events).options = session.options := by
  induction events generalizing session with
  | nil => rfl
  | cons event events ih =>
    rw [takeAll, List.foldl_cons, ← takeAll, ih]
    cases event <;> rfl

theorem takeAll_store (session : Session) (events : List SessionEvent) :
    (session.takeAll events).store =
      (SessionEvent.hits events).foldl HitStore.insert session.store := by
  induction events generalizing session with
  | nil => rfl
  | cons event events ih =>
    rw [takeAll, List.foldl_cons, ← takeAll, ih, SessionEvent.hits_cons]
    cases event <;> rfl

theorem takeAll_stats (session : Session) (events : List SessionEvent) :
    (session.takeAll events).stats = events.foldl Stats.take session.stats := by
  refine (List.foldl_hom Session.stats ?_).symm
  intro session event
  cases event <;> rfl

theorem takeAll_drops (session : Session) (events : List SessionEvent) :
    (session.takeAll events).drops = events.foldl DropCounter.take session.drops := by
  refine (List.foldl_hom Session.drops ?_).symm
  intro session event
  cases event <;> rfl

end Session
end ProbeTrace
