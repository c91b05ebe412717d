import ProbeTrace.Decimal.Places

/-!
# Decimal floating point of 128 bits

Sign, exponent and a coefficient of up to 34 digits. A coefficient with more
digits counts as zero. The text shows every digit of the coefficient, in full
for small exponents and with an exponent else.
-/

set_option autoImplicit false

namespace ProbeTrace.Bson.Decimal128

inductive Number where
  | finite (negative : Bool) (coefficient : Nat) (exponent : Int)
  | infinite (negative : Bool)
  | undefined
  deriving DecidableEq, Repr

/-- The greatest exponent offset. -/
def bias : Int := 6176

def largest : Nat := Nat.pow 10 34 - 1

/-- Reads the fields of a 128-bit pattern: after the sign, two set bits move the
exponent by two places and open the coefficient with binary 100. -/
def ofPattern (n : Nat) : Number :=
  let negative := decide (Nat.pow 2 127 ≤ n)
  let combination : Nat := n / Nat.pow 2 122 % 32
  if combination = 31 then .undefined
  else if combination = 30 then .infinite negative
  else
    let wide := decide (24 ≤ combination)
    let exponent : Nat := (if wide then n / Nat.pow 2 111 else n / Nat.pow 2 113) % Nat.pow 2 14
    let coefficient : Nat := if wide then Nat.pow 2 113 + n % Nat.pow 2 111 else n % Nat.pow 2 113
    .finite negative (if largest < coefficient then 0 else coefficient) (exponent - bias)

/-- Digits in full when the exponent is not positive and the number is not too small. -/
def magnitudeText (coefficient : Nat) (exponent : Int) : List Char :=
  let digits := Nat.toDigits 10 coefficient
  let adjusted := exponent + digits.length - 1
  if exponent ≤ 0 ∧ -6 ≤ adjusted then
    let places := (-exponent).toNat
    if places = 0 then digits
    else if digits.length ≤ places then
      '0' :: '.' :: (List.replicate (places - digits.length) '0' ++ digits)
    else
      digits.take (digits.length - places) ++ '.' :: digits.drop (digits.length - places)
  else
    digits.take 1 ++ (if digits.length ≤ 1 then [] else '.' :: digits.drop 1) ++
      'E' :: (if 0 < adjusted then ['+'] else if adjusted < 0 then ['-'] else []) ++
      Nat.toDigits 10 adjusted.natAbs

def Number.text : Number → String
  | .undefined => "NaN"
  | .infinite negative => if negative then "-Infinity" else "Infinity"
  | .finite negative coefficient exponent =>
    (if negative then "-" else "") ++ String.ofList (magnitudeText coefficient exponent)

end ProbeTrace.Bson.Decimal128
