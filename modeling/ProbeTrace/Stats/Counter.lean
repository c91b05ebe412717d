import ProbeTrace.Decimal.Places
import ProbeTrace.Keyed

/-!
# Counters

How often each value was met, and how often any was. In a ranking the most
frequent values come first, and among equals the smaller text.
-/

set_option autoImplicit false

namespace ProbeTrace

def countFloat (n : Nat) : Float :=
  (UInt64.ofNat n).toFloat

structure Counter where
  counts : Keyed String Nat
  total : Nat
  deriving DecidableEq, Repr

namespace Counter

def empty : Counter :=
  ⟨[], 0⟩

def add (counter : Counter) (value : String) : Counter :=
  ⟨Keyed.update value (fun count => count.getD 0 + 1) counter.counts, counter.total + 1⟩

def count (counter : Counter) (value : String) : Nat :=
  (Keyed.get? value counter.counts).getD 0

def isEmpty (counter : Counter) : Bool :=
  counter.total = 0

/-- The share of a value, zero if nothing was counted. -/
def probability (counter : Counter) (value : String) : Float :=
  if counter.total = 0 then 0.0
  else countFloat (counter.count value) / countFloat counter.total

/-- Whether an entry comes before another in a ranking. -/
def precedes (a b : String × Nat) : Bool :=
  b.2 < a.2 || (a.2 = b.2 && !(b.1 < a.1))

def ranked (counter : Counter) : List (String × Nat) :=
  counter.counts.mergeSort precedes

def line (counter : Counter) (value : String) : String :=
  " - " ++ value ++ ": " ++ Decimal.fixed 2 (counter.probability value * 100.0) ++ "%\n"

def text (counter : Counter) : String :=
  "[total " ++ toString counter.total ++ "]\n" ++
    String.join (counter.ranked.map fun entry => counter.line entry.1)

end Counter
end ProbeTrace
