/-!
# Binary fractions

A double is taken apart into a sign and a magnitude `mantissa * 2 ^ exponent`,
both whole numbers, so that every decimal question about it is one about
natural numbers. The reals that round to a double form an interval around it;
its ends belong to it exactly when the mantissa is even.
-/

set_option autoImplicit false

namespace ProbeTrace.Decimal

/-- A finite magnitude `mantissa * 2 ^ exponent`. The gap to the next smaller
double is half the gap to the next larger one when `atPower` holds. -/
structure Magnitude where
  mantissa : Nat
  exponent : Int
  atPower : Bool
  deriving DecidableEq, Repr

inductive Binary where
  | finite (negative : Bool) (magnitude : Magnitude)
  | infinite (negative : Bool)
  | undefined
  deriving DecidableEq, Repr

/-- Reads the three fields of a 64-bit pattern. -/
def Binary.ofBits (bits : UInt64) : Binary :=
  let n := bits.toNat
  let negative := decide (Nat.pow 2 63 ≤ n)
  let biased : Nat := n / Nat.pow 2 52 % Nat.pow 2 11
  let fraction : Nat := n % Nat.pow 2 52
  if biased = Nat.pow 2 11 - 1 then
    if fraction = 0 then .infinite negative else .undefined
  else if biased = 0 then
    .finite negative ⟨fraction, -1074, false⟩
  else
    .finite negative
      ⟨Nat.pow 2 52 + fraction, (biased : Int) - 1075, decide (fraction = 0 ∧ 1 < biased)⟩

def Binary.ofFloat (x : Float) : Binary :=
  ofBits x.toBits

namespace Magnitude

/-- The interval of reals that round to the magnitude, as numerators over
`denominator`: lower end, magnitude, upper end. -/
def window (a : Magnitude) : Nat × Nat × Nat :=
  let unit := Nat.pow 2 a.exponent.toNat
  let centre := 4 * a.mantissa * unit
  (centre - (if a.atPower then 1 else 2) * unit, centre, centre + 2 * unit)

def denominator (a : Magnitude) : Nat :=
  4 * Nat.pow 2 (-a.exponent).toNat

def isClosed (a : Magnitude) : Bool :=
  a.mantissa % 2 = 0

end Magnitude
end ProbeTrace.Decimal
