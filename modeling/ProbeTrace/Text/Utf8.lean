import ProbeTrace.Bytes

/-!
# UTF-8

Decoding of byte strings as text. A sequence is opened by a leading byte that
fixes how many bytes follow and how far the first of them may range; a sequence
that breaks off is given up after its longest sound part. Strict decoding
refuses such a string, lenient decoding puts one replacement character there.
-/

set_option autoImplicit false

namespace ProbeTrace.Text.Utf8

/-- What a leading byte promises: the payload bits it carries, the number of
bytes that follow, and the bounds on the first of those. -/
structure Lead where
  bits : Nat
  following : Nat
  low : UInt8
  high : UInt8
  deriving DecidableEq, Repr

def lead? (b : UInt8) : Option Lead :=
  if b < 0x80 then some ⟨b.toNat, 0, 0x80, 0xBF⟩
  else if b < 0xC2 then none
  else if b < 0xE0 then some ⟨b.toNat - 0xC0, 1, 0x80, 0xBF⟩
  else if b = 0xE0 then some ⟨0, 2, 0xA0, 0xBF⟩
  else if b = 0xED then some ⟨13, 2, 0x80, 0x9F⟩
  else if b < 0xF0 then some ⟨b.toNat - 0xE0, 2, 0x80, 0xBF⟩
  else if b = 0xF0 then some ⟨0, 3, 0x90, 0xBF⟩
  else if b < 0xF4 then some ⟨b.toNat - 0xF0, 3, 0x80, 0xBF⟩
  else if b = 0xF4 then some ⟨4, 3, 0x80, 0x8F⟩
  else none

/-- Reads the bytes that follow a leading byte; no character where one is missing
or out of bounds, and then that byte is left unread. -/
def following : Nat → UInt8 → UInt8 → Nat → Bytes → Option Char × Bytes
  | 0, _, _, bits, rest => (some (Char.ofNat bits), rest)
  | _ + 1, _, _, _, [] => (none, [])
  | n + 1, low, high, bits, b :: rest =>
    if low ≤ b ∧ b ≤ high then following n 0x80 0xBF (64 * bits + (b.toNat - 0x80)) rest
    else (none, b :: rest)

theorem following_length_le (n : Nat) (low high : UInt8) (bits : Nat) (data : Bytes) :
    (following n low high bits data).2.length ≤ data.length := by
  induction n generalizing low high bits data with
  | zero => simp [following]
  | succ n ih =>
    cases data with
    | nil => simp [following]
    | cons b rest =>
      simp only [following]
      split
      · exact Nat.le_trans (ih ..) (by simp)
      · simp

/-- One character, or none for a broken sequence, and what is left to read. -/
def next (b : UInt8) (rest : Bytes) : Option Char × Bytes :=
  match lead? b with
  | some lead => following lead.following lead.low lead.high lead.bits rest
  | none => (none, rest)

theorem next_length_le (b : UInt8) (rest : Bytes) : (next b rest).2.length ≤ rest.length := by
  simp only [next]
  split
  · exact following_length_le ..
  · simp

/-- The characters of a byte string, with no character at each broken sequence. -/
def sequences : Bytes → List (Option Char)
  | [] => []
  | b :: rest => (next b rest).1 :: sequences (next b rest).2
termination_by data => data.length
decreasing_by
  have := next_length_le b rest
  simp only [List.length_cons]
  omega

/-- Strict decoding: refuses a string with a broken sequence. -/
def decode? (data : Bytes) : Option String :=
  ((sequences data).mapM id).map String.ofList

/-- Lenient decoding: one replacement character for each broken sequence. -/
def decodeLenient (data : Bytes) : String :=
  String.ofList ((sequences data).map (·.getD '\uFFFD'))

def encode (text : String) : Bytes :=
  text.toList.flatMap String.utf8EncodeChar

end ProbeTrace.Text.Utf8
