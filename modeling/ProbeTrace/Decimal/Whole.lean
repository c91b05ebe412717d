import ProbeTrace.Decimal.Reading

/-!
# Reading whole numbers

Whole numbers of a bounded range: decimal digits with an optional plus sign, and
a minus sign only where the range is read as a signed one. Leading zeros are fine.
-/

set_option autoImplicit false

namespace ProbeTrace.Decimal.Reading

def digits? (text : List Char) : Option Nat :=
  if text ≠ [] ∧ text.all Char.isDigit then some (digitValue text) else none

/-- A whole number with an optional plus sign. -/
def natural? (text : String) : Option Nat :=
  match text.toList with
  | '+' :: rest => digits? rest
  | rest => digits? rest

/-- A whole number with an optional sign. -/
def integer? (text : String) : Option Int :=
  match text.toList with
  | '-' :: rest => (digits? rest).map fun n => -(n : Int)
  | _ => (natural? text).map fun (n : Nat) => (n : Int)

/-- A number below `2 ^ 32`; it is read as a signed one, so that minus zero counts. -/
def word32? (text : String) : Option UInt32 := do
  let n ← integer? text
  if 0 ≤ n ∧ n < Nat.pow 2 32 then some (UInt32.ofNat n.toNat) else none

/-- A number below `2 ^ 64`. -/
def word64? (text : String) : Option Nat := do
  let n ← natural? text
  if n < Nat.pow 2 64 then some n else none

end ProbeTrace.Decimal.Reading
