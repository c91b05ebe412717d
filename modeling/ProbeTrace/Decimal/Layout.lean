import ProbeTrace.Decimal.Shortest
import ProbeTrace.Decimal.Places

/-!
# Decimal layouts

How the digits of a shortest decimal are set: which numbers are written out in
full and which with an exponent, whether a whole number shows its point, and
which of two equally near decimals is written.
-/

set_option autoImplicit false

namespace ProbeTrace.Decimal

/-- A number is written out in full when its point falls after more than `least`
and at most `most` of its digits; no bound means always. -/
structure Layout where
  least : Option Int
  most : Option Int
  wholePoint : Bool
  tie : Tie
  deriving DecidableEq, Repr

namespace Layout

/-- Every number in full, a whole number without a point; a tie goes up. -/
def full : Layout := ⟨none, none, false, .upper⟩

/-- In full from a hundred-thousandth up to sixteen digits before the point, and a
fraction is always recognisable as one; a tie goes to the even digit. -/
def document : Layout := ⟨some (-5), some 16, true, .even⟩

def isPositional (layout : Layout) (point : Int) : Bool :=
  (layout.least.all fun least => decide (least < point)) &&
    (layout.most.all fun most => decide (point ≤ most))

def positional (layout : Layout) (digits : List Char) (point : Int) : List Char :=
  if point ≤ 0 then
    '0' :: '.' :: (List.replicate (-point).toNat '0' ++ digits)
  else if digits.length ≤ point.toNat then
    digits ++ List.replicate (point.toNat - digits.length) '0' ++
      (if layout.wholePoint then ['.', '0'] else [])
  else
    digits.take point.toNat ++ '.' :: digits.drop point.toNat

def scientific (digits : List Char) (point : Int) : List Char :=
  let exponent := point - 1
  digits.take 1 ++ (if digits.length ≤ 1 then [] else '.' :: digits.drop 1) ++
    'e' :: (if exponent < 0 then '-' else '+') :: Nat.toDigits 10 exponent.natAbs

def write (layout : Layout) (d : Scaled) : String :=
  let digits := Nat.toDigits 10 d.digits
  let point := (digits.length : Int) + d.exponent
  String.ofList
    (if layout.isPositional point then layout.positional digits point
      else scientific digits point)

/-- The shortest text of a double; infinities and undefined values by name. -/
def text (layout : Layout) (x : Float) : String :=
  match Binary.ofFloat x with
  | .undefined => "NaN"
  | .infinite negative => if negative then "-inf" else "inf"
  | .finite negative a => (if negative then "-" else "") ++ layout.write (a.shortest layout.tie)

end Layout
end ProbeTrace.Decimal
