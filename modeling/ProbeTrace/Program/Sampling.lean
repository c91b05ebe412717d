/-!
# Sampling

A probe that records only a fraction of its firings draws a number of 32 bits
each time and records when the number is not above a threshold. A probe that
records every firing has no gate.
-/

set_option autoImplicit false

namespace ProbeTrace

structure SampleGate where
  threshold : Option UInt32
  deriving DecidableEq, Repr

namespace SampleGate

def greatest : UInt32 := 4294967295

/-- The threshold of a fraction: its share of all draws, rounded down, within bounds. -/
def ofFraction (fraction : Float) : SampleGate :=
  if fraction >= 1.0 then ⟨none⟩
  else
    let share := (fraction * 4294967296.0).floor
    if share >= 4294967295.0 then ⟨some greatest⟩
    else if share <= 0.0 then ⟨some 0⟩
    else ⟨some share.toUInt32⟩

def admits (gate : SampleGate) (draw : UInt32) : Bool :=
  gate.threshold.all fun threshold => decide (draw ≤ threshold)

end SampleGate
end ProbeTrace
