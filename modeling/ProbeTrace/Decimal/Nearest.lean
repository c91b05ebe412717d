import ProbeTrace.Decimal.Places

/-!
# Nearest doubles

The double nearest to a quotient, a half going to the even neighbour. Doubles of
one size are the multiples of a power of two; the pattern of a double is the
number of steps from zero to it, so rounding up past the largest multiple of one
size arrives at the next size by itself.
-/

set_option autoImplicit false

namespace ProbeTrace.Decimal.Nearest

/-- The exponent of the finest steps there are. -/
def finest : Int := -1074

/-- Whether `num / den` is at least `2 ^ exponent`. -/
def reaches (num den : Nat) (exponent : Int) : Bool :=
  den * Nat.pow 2 exponent.toNat ≤ num * Nat.pow 2 (-exponent).toNat

/-- The exponent of the steps around a quotient: 53 binary digits cover it. -/
def stepExponent (num den : Nat) : Int :=
  let size : Int := (num.log2 : Int) - den.log2
  max finest (if reaches num den size then size - 52 else size - 53)

def infinity : UInt64 := 0x7FF0000000000000

/-- The pattern of the double nearest to `num / den`; past the last double it is infinity. -/
def bits (num den : Nat) : UInt64 :=
  let exponent := stepExponent num den
  let steps := roundHalfEven (num * Nat.pow 2 (-exponent).toNat) (den * Nat.pow 2 exponent.toNat)
  let pattern := (exponent - finest).toNat * Nat.pow 2 52 + steps
  if infinity.toNat ≤ pattern then infinity else UInt64.ofNat pattern

end ProbeTrace.Decimal.Nearest
