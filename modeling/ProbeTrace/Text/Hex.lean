import ProbeTrace.Bytes

/-!
# Hexadecimal

Bytes as two lower-case digits each, and numbers without leading zeros.
-/

set_option autoImplicit false

namespace ProbeTrace.Text.Hex

def pair (b : UInt8) : List Char :=
  [Nat.digitChar (b.toNat / 16), Nat.digitChar (b.toNat % 16)]

def ofBytes (data : Bytes) : String :=
  String.ofList (data.flatMap pair)

def ofNat (n : Nat) : String :=
  String.ofList (Nat.toDigits 16 n)

/-- A number behind the marker of its base. -/
def marked (n : Nat) : String :=
  "0x" ++ ofNat n

end ProbeTrace.Text.Hex
