import ProbeTrace.Keyed

/-!
# Lost events

Events that were lost before they could be read, for each probe and altogether.
The total is kept as a word of 64 bits, which starts again at zero.
-/

set_option autoImplicit false

namespace ProbeTrace

structure DropCounter where
  /-- All lost events, modulo `DropCounter.totalRange`. -/
  total : Nat
  perProbe : Keyed String Nat
  deriving DecidableEq, Repr

namespace DropCounter

def totalRange : Nat := Nat.pow 2 64

def empty : DropCounter :=
  ⟨0, []⟩

def record (drops : DropCounter) (probe : String) (count : Nat) : DropCounter :=
  ⟨(drops.total + count) % totalRange,
    Keyed.update probe (fun n => n.getD 0 + count) drops.perProbe⟩

def forProbe (drops : DropCounter) (probe : String) : Nat :=
  (Keyed.get? probe drops.perProbe).getD 0

end DropCounter
end ProbeTrace
