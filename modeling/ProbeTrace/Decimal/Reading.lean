import ProbeTrace.Decimal.Nearest

/-!
# Reading decimals

The number grammar of option values: an optional sign, then digits with an
optional point and an optional exponent, or one of the words for infinity and
for an undefined number in any case. The result is the 64-bit pattern of the
nearest double, so that the sign of an undefined number is kept.
-/

set_option autoImplicit false

namespace ProbeTrace.Decimal.Reading

def digitValue (digits : List Char) : Nat :=
  digits.foldl (fun n c => 10 * n + (c.toNat - '0'.toNat)) 0

/-- Splits off the sign; `true` for a minus. -/
def sign : List Char → Bool × List Char
  | '-' :: rest => (true, rest)
  | '+' :: rest => (false, rest)
  | text => (false, text)

/-- An exponent part, or none where nothing is written. -/
def exponent? : List Char → Option Int
  | [] => some 0
  | c :: rest =>
    if c = 'e' ∨ c = 'E' then
      let (negative, digits) := sign rest
      if digits ≠ [] ∧ digits.all Char.isDigit then
        some (if negative then -(digitValue digits : Int) else digitValue digits)
      else none
    else none

/-- Digits around an optional point: all digits, how many follow the point, and the rest. -/
def mantissa? (text : List Char) : Option (List Char × Nat × List Char) :=
  let whole := text.takeWhile Char.isDigit
  match text.dropWhile Char.isDigit with
  | '.' :: rest =>
    let fraction := rest.takeWhile Char.isDigit
    if whole = [] ∧ fraction = [] then none
    else some (whole ++ fraction, fraction.length, rest.dropWhile Char.isDigit)
  | rest => if whole = [] then none else some (whole, 0, rest)

def undefinedNumber : UInt64 := 0x7FF8000000000000

def signBit : UInt64 := 0x8000000000000000

/-- The pattern nearest to `digits * 10 ^ exponent`. Powers past the range of doubles
are settled by size alone. -/
def nearest (digits : List Char) (exponent : Int) : UInt64 :=
  let significand := digitValue digits
  let point := ((digits.dropWhile (· = '0')).length : Int) + exponent
  if significand = 0 ∨ point < -400 then 0
  else if 400 < point then Nearest.infinity
  else
    Nearest.bits (significand * Nat.pow 10 exponent.toNat) (Nat.pow 10 (-exponent).toNat)

def magnitude? (text : List Char) : Option UInt64 :=
  let word := text.map Char.toLower
  if word = "inf".toList ∨ word = "infinity".toList then some Nearest.infinity
  else if word = "nan".toList then some undefinedNumber
  else do
    let (digits, places, rest) ← mantissa? text
    let exponent ← exponent? rest
    return nearest digits (exponent - places)

/-- The 64-bit pattern a text stands for. -/
def bits? (text : String) : Option UInt64 :=
  let (negative, rest) := sign text.toList
  (magnitude? rest).map fun bits => if negative then bits ||| signBit else bits

end ProbeTrace.Decimal.Reading
