import Mathlib.Data.Nat.Digits.Defs
import ProbeTrace.Bytes
import ProbeTrace.Proofs.Text.Utf8

/-!
# Laws of byte strings

What stands in a byte string at an offset: so many bytes, the word they make up
with its least significant byte first, or the text before the first zero byte.
-/

set_option autoImplicit false

namespace ProbeTrace.Bytes

/-- So many bytes from an offset on, as far as there are any. -/
def window (data : Bytes) (offset size : Nat) : Bytes :=
  (data.drop offset).take size

/-- The word at an offset, its least significant byte first. -/
def wordAt (data : Bytes) (offset size : Nat) : Nat :=
  Nat.ofDigits 256 ((data.window offset size).map UInt8.toNat)

/-- The two's complement word at an offset. -/
def signedAt (data : Bytes) (offset size : Nat) : Int :=
  Int.bmod (data.wordAt offset size) (2 ^ (8 * size))

/-- The text at an offset, which ends before its first zero byte. -/
def textAt (data : Bytes) (offset size : Nat) : String :=
  Text.Utf8.decodeLenient ((data.window offset size).takeWhile (· ≠ 0))

theorem toNat_eq_ofDigits (data : Bytes) :
    data.toNat = Nat.ofDigits 256 (data.map UInt8.toNat) := by
  induction data with
  | nil => rfl
  | cons b rest ih => simp [toNat, Nat.ofDigits_cons, ih]

theorem window_length {data : Bytes} {offset size : Nat} (h : offset + size ≤ data.length) :
    (data.window offset size).length = size := by
  simp only [window, List.length_take, List.length_drop]
  omega

theorem slice?_eq_some {data : Bytes} {offset size : Nat} (h : offset + size ≤ data.length) :
    data.slice? offset size = some (data.window offset size) :=
  if_pos (window_length h)

theorem window_toNat (data : Bytes) (offset size : Nat) :
    (data.window offset size).toNat = data.wordAt offset size :=
  toNat_eq_ofDigits _

theorem window_toInt {data : Bytes} {offset size : Nat} (h : offset + size ≤ data.length) :
    (data.window offset size).toInt = data.signedAt offset size := by
  rw [toInt, signedAt, window_toNat, window_length h]
  rfl

theorem window_take {data : Bytes} {offset size n : Nat} (h : offset + size ≤ n) :
    window (data.take n) offset size = data.window offset size := by
  rw [window, window, List.drop_take, List.take_take, Nat.min_eq_left (by omega)]

theorem wordAt_take {data : Bytes} {offset size n : Nat} (h : offset + size ≤ n) :
    wordAt (data.take n) offset size = data.wordAt offset size := by
  rw [wordAt, wordAt, window_take h]

theorem signedAt_take {data : Bytes} {offset size n : Nat} (h : offset + size ≤ n) :
    signedAt (data.take n) offset size = data.signedAt offset size := by
  rw [signedAt, signedAt, wordAt_take h]

theorem textAt_take {data : Bytes} {offset size n : Nat} (h : offset + size ≤ n) :
    textAt (data.take n) offset size = data.textAt offset size := by
  rw [textAt, textAt, window_take h]

theorem window_append (front part back : Bytes) :
    window (front ++ (part ++ back)) front.length part.length = part := by
  rw [window, List.drop_left, List.take_left]

def word : Nat → Nat → Bytes
  | 0, _ => []
  | size + 1, value => UInt8.ofNat value :: word size (value / 256)

theorem word_length (size value : Nat) : (word size value).length = size := by
  induction size generalizing value with
  | zero => rfl
  | succ size ih => rw [word, List.length_cons, ih]

theorem toNat_word (size value : Nat) : (word size value).toNat = value % 256 ^ size := by
  induction size generalizing value with
  | zero => simp [word, toNat, Nat.mod_one]
  | succ size ih =>
    have hbyte : (UInt8.ofNat value).toNat = value % 256 := UInt8.toNat_ofNat'
    rw [word, toNat, hbyte, ih, Nat.pow_succ', Nat.mod_mul]

theorem wordAt_append (front back : Bytes) (size value : Nat) :
    wordAt (front ++ (word size value ++ back)) front.length size = value % 256 ^ size := by
  have hwindow := window_append front (word size value) back
  rw [word_length] at hwindow
  rw [← window_toNat, hwindow, toNat_word]

theorem signedAt_append (front back : Bytes) (size : Nat) (number : BitVec (8 * size)) :
    signedAt (front ++ (word size number.toNat ++ back)) front.length size = number.toInt := by
  have hpow : 256 ^ size = 2 ^ (8 * size) := (Nat.pow_mul 2 8 size).symm
  rw [signedAt, wordAt_append, hpow, Nat.mod_eq_of_lt number.isLt, BitVec.toInt_eq_toNat_bmod]

/-- The bytes of a text, filled up with zeros. -/
def textSlot (size : Nat) (text : String) : Bytes :=
  Text.Utf8.encode text ++ List.replicate (size - (Text.Utf8.encode text).length) 0

theorem textSlot_length {size : Nat} {text : String}
    (hfit : (Text.Utf8.encode text).length ≤ size) : (textSlot size text).length = size := by
  rw [textSlot, List.length_append, List.length_replicate, Nat.add_sub_cancel' hfit]

theorem textAt_append (front back : Bytes) {size : Nat} {text : String}
    (hfit : (Text.Utf8.encode text).length ≤ size) (hzero : '\x00' ∉ text.toList) :
    textAt (front ++ (textSlot size text ++ back)) front.length size = text := by
  have hwindow := window_append front (textSlot size text) back
  rw [textSlot_length hfit] at hwindow
  have hbefore : (textSlot size text).takeWhile (· ≠ 0) = Text.Utf8.encode text := by
    have hnone : ∀ b ∈ Text.Utf8.encode text, decide (b ≠ 0) = true := by
      intro b hb
      rw [decide_eq_true_eq]
      rintro rfl
      exact Text.Utf8.zero_not_mem_encode hzero hb
    rw [textSlot, List.takeWhile_append_of_pos hnone, List.takeWhile_replicate]
    simp
  rw [textAt, hwindow, hbefore, Text.Utf8.decodeLenient_encode]

end ProbeTrace.Bytes
