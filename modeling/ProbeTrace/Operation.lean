import ProbeTrace.Hit

/-!
# Operations

Hits that carry the same handle belong to one operation. An arena keeps the
operations that are under way, by their handles, until they are taken out.
-/

set_option autoImplicit false

namespace ProbeTrace

/-- The hits of one operation in order of arrival; there is at least one. -/
structure Operation where
  handle : UInt64
  first : Hit
  rest : List Hit

namespace Operation

def hits (operation : Operation) : List Hit :=
  operation.first :: operation.rest

def firstNs (operation : Operation) : Nat :=
  operation.rest.foldl (fun ns hit => min ns hit.ns) operation.first.ns

def lastNs (operation : Operation) : Nat :=
  operation.rest.foldl (fun ns hit => max ns hit.ns) operation.first.ns

def add (operation : Operation) (hit : Hit) : Operation :=
  { operation with rest := operation.rest ++ [hit] }

def saw (operation : Operation) (probe : String) : Bool :=
  operation.hits.any fun hit => hit.probe = probe

/-- Whether an operation comes first in a listing: by time, then by handle. -/
def precedes (a b : Operation) : Bool :=
  a.firstNs < b.firstNs || (a.firstNs = b.firstNs && a.handle ≤ b.handle)

end Operation

structure Arena where
  /-- The argument that holds the handle. -/
  key : String
  operations : Keyed UInt64 Operation

namespace Arena

def empty (key : String) : Arena :=
  ⟨key, []⟩

def handle? (arena : Arena) (hit : Hit) : Option UInt64 :=
  (hit.arg? arena.key).bind Value.asUInt64?

/-- Adds a hit to the operation of a handle, which it may begin. -/
def record (arena : Arena) (handle : UInt64) (hit : Hit) : Arena :=
  { arena with
    operations := Keyed.update handle
      (fun operation =>
        match operation with
        | some operation => operation.add hit
        | none => ⟨handle, hit, []⟩)
      arena.operations }

def get? (arena : Arena) (handle : UInt64) : Option Operation :=
  Keyed.get? handle arena.operations

def erase (arena : Arena) (handle : UInt64) : Arena :=
  { arena with operations := Keyed.erase handle arena.operations }

/-- All operations under way, by the time of their earliest hits. -/
def outstanding (arena : Arena) : List Operation :=
  arena.operations.values.mergeSort Operation.precedes

end Arena
end ProbeTrace
