/-!
# Byte strings

Records, chunks and payloads are lists of bytes. Words are little-endian and
text slots end at their first zero byte. Only the reading side is given here:
a word is its digits in base 256, and a signed word is the residue nearest zero.
-/

set_option autoImplicit false

namespace ProbeTrace

abbrev Bytes := List UInt8

namespace Bytes

/-- The word whose base-256 digits, least significant first, are the given bytes. -/
def toNat : Bytes → Nat
  | [] => 0
  | b :: rest => b.toNat + 256 * toNat rest

/-- The two's complement reading of a word as wide as the byte string. -/
def toInt (data : Bytes) : Int :=
  Int.bmod (toNat data) (Nat.pow 2 (8 * data.length))

/-- The `size` bytes that start at `offset`, when the string holds them all. -/
def slice? (data : Bytes) (offset size : Nat) : Option Bytes :=
  let part := (data.drop offset).take size
  if part.length = size then some part else none

/-- The text part of a slot: everything before its first zero byte. -/
def beforeNul (data : Bytes) : Bytes :=
  data.takeWhile (· ≠ 0)

/-- The string without the zero bytes it ends in. -/
def withoutTrailingNuls (data : Bytes) : Bytes :=
  (data.reverse.dropWhile (· = 0)).reverse

end Bytes
end ProbeTrace
