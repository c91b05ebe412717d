import ProbeTrace.Hit

/-!
# Histories

Hits of one thread may arrive a little out of order. A history keeps them in
order of time, those of the same time in order of arrival, and can be bounded:
the oldest hits give way to newer ones. A store keeps one history for each
thread, and threads do not touch each other.
-/

set_option autoImplicit false

namespace ProbeTrace

structure ThreadHistory where
  /-- Most hits that are kept; zero means all. -/
  capacity : Nat
  hits : List Hit
  /-- Hits that arrived behind a later one. -/
  reordered : Nat
  /-- Hits that gave way to newer ones. -/
  dropped : Nat

namespace ThreadHistory

def empty (capacity : Nat) : ThreadHistory :=
  ⟨capacity, [], 0, 0⟩

/-- Puts a hit behind all hits that are not later than it. -/
def place (hit : Hit) : List Hit → List Hit
  | [] => [hit]
  | first :: rest =>
    if hit.ns < first.ns then hit :: first :: rest else first :: place hit rest

/-- Whether a later hit is there already. -/
def isLate (history : ThreadHistory) (hit : Hit) : Bool :=
  history.hits.getLast?.any fun last => hit.ns < last.ns

/-- How many hits are over the bound in a list. -/
def excess (capacity : Nat) (hits : List Hit) : Nat :=
  if capacity = 0 then 0 else hits.length - capacity

def insert (history : ThreadHistory) (hit : Hit) : ThreadHistory :=
  let hits := place hit history.hits
  let surplus := excess history.capacity hits
  { history with
    hits := hits.drop surplus
    reordered := history.reordered + (history.isLate hit).toNat
    dropped := history.dropped + surplus }

def ofHits (capacity : Nat) (hits : List Hit) : ThreadHistory :=
  hits.foldl insert (empty capacity)

theorem place_length (hit : Hit) (hits : List Hit) :
    (place hit hits).length = hits.length + 1 := by
  induction hits with
  | nil => rfl
  | cons first rest ih =>
    simp only [place]
    split <;> simp [ih]

theorem place_perm (hit : Hit) (hits : List Hit) : (place hit hits).Perm (hit :: hits) := by
  induction hits with
  | nil => exact .refl _
  | cons first rest ih =>
    simp only [place]
    split
    · exact .refl _
    · exact (ih.cons first).trans (.swap hit first rest)

end ThreadHistory

/-- The histories of all threads, each bounded alike. -/
structure HitStore where
  capacity : Nat
  threads : Keyed Nat ThreadHistory

namespace HitStore

def empty (capacity : Nat) : HitStore :=
  ⟨capacity, []⟩

def insert (store : HitStore) (hit : Hit) : HitStore :=
  { store with
    threads := Keyed.update hit.tid
      (fun history => (history.getD (ThreadHistory.empty store.capacity)).insert hit)
      store.threads }

def tids (store : HitStore) : List Nat :=
  Keyed.keys store.threads

def history? (store : HitStore) (tid : Nat) : Option ThreadHistory :=
  Keyed.get? tid store.threads

def size (store : HitStore) : Nat :=
  (store.threads.flatMap fun entry => entry.2.hits).length

end HitStore
end ProbeTrace
