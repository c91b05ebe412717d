import ProbeTrace.Decimal.Binary

/-!
# Shortest decimals

Among the decimals that round to a double, the one with the fewest digits, and
of those the nearest; a rule decides where two are equally near. A power of ten
spans a grid; if the interval around the
double holds a point of the grid at all, it holds one of the two neighbours of
the double on it, so only these are tried, from the coarsest grid on.
-/

set_option autoImplicit false

namespace ProbeTrace.Decimal

/-- The number `digits * 10 ^ exponent`. -/
structure Scaled where
  digits : Nat
  exponent : Int
  deriving DecidableEq, Repr

/-- Which of two decimals is taken when a double lies halfway between them. -/
inductive Tie where
  | even
  | upper
  deriving DecidableEq, Repr

/-- Whether a tie above `below` goes to the upper neighbour. -/
def Tie.takesUpper : Tie → Nat → Bool
  | .even, below => below % 2 = 1
  | .upper, _ => true

namespace Magnitude

/-- Whether `digits * 10 ^ exponent` rounds to the magnitude. -/
def admits (a : Magnitude) (d : Scaled) : Bool :=
  let (low, _, high) := a.window
  let point := d.digits * Nat.pow 10 d.exponent.toNat * a.denominator
  let scale := Nat.pow 10 (-d.exponent).toNat
  if a.isClosed then decide (low * scale ≤ point ∧ point ≤ high * scale)
  else decide (low * scale < point ∧ point < high * scale)

/-- The number of grid steps of `10 ^ exponent` below the magnitude, and where it
lies in respect of the middle of the next step. -/
def gridBelow (a : Magnitude) (exponent : Int) : Nat × Ordering :=
  let (_, centre, _) := a.window
  let unit := Nat.pow 10 exponent.toNat * a.denominator
  let value := centre * Nat.pow 10 (-exponent).toNat
  (value / unit, compare (2 * (value % unit)) unit)

/-- The better of the two neighbours on the grid, if one of them qualifies. -/
def onGrid? (a : Magnitude) (tie : Tie) (exponent : Int) : Option Scaled :=
  let (below, side) := a.gridBelow exponent
  let lower : Scaled := ⟨below, exponent⟩
  let higher : Scaled := ⟨below + 1, exponent⟩
  match a.admits lower, a.admits higher, side with
  | true, true, .lt => some lower
  | true, true, .eq => some (if tie.takesUpper below then higher else lower)
  | true, true, .gt => some higher
  | true, false, _ => some lower
  | false, true, _ => some higher
  | false, false, _ => none

/-- An exponent of ten whose power exceeds the magnitude. -/
def coarsest (a : Magnitude) : Int :=
  ((a.mantissa.log2 : Int) + 1 + a.exponent) * 30103 / 100000 + 1

/-- The fewest digits that read back as the magnitude. Twenty grids reach past
the seventeen digits that always suffice. -/
def shortest (a : Magnitude) (tie : Tie) : Scaled :=
  if a.mantissa = 0 then ⟨0, 0⟩
  else
    ((List.range 20).findSome? fun (i : Nat) => a.onGrid? tie (a.coarsest - i)).getD
      ⟨a.mantissa, 0⟩

end Magnitude
end ProbeTrace.Decimal
