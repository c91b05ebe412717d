import ProbeTrace.Decimal.Binary

/-!
# Fixed places

The exact value of a double rounded to a fixed number of decimals. A quotient
is rounded to the nearest whole number, a half to the even neighbour.
-/

set_option autoImplicit false

namespace ProbeTrace.Decimal

/-- The whole number nearest to `num / den`, the even one of two. -/
def roundHalfEven (num den : Nat) : Nat :=
  let quotient := num / den
  let twice := 2 * (num % den)
  if twice < den then quotient
  else if den < twice then quotient + 1
  else quotient + quotient % 2

def digitText (n : Nat) : String :=
  String.ofList (Nat.toDigits 10 n)

def padded (width n : Nat) : String :=
  let digits := Nat.toDigits 10 n
  String.ofList (List.replicate (width - digits.length) '0' ++ digits)

/-- A double with exactly `places` decimals; infinities and undefined values by name. -/
def fixed (places : Nat) (x : Float) : String :=
  match Binary.ofFloat x with
  | .undefined => "NaN"
  | .infinite negative => if negative then "-inf" else "inf"
  | .finite negative a =>
    let units := roundHalfEven
      (a.mantissa * Nat.pow 2 a.exponent.toNat * Nat.pow 10 places) (Nat.pow 2 (-a.exponent).toNat)
    (if negative then "-" else "") ++ digitText (units / Nat.pow 10 places) ++ "." ++
      padded places (units % Nat.pow 10 places)

end ProbeTrace.Decimal
